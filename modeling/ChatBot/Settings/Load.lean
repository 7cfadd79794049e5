/-
  ChatBot.Settings.Load — the settings of a bot from all their sources.

  Over the defaults come the user's file, a file that was asked for, and the environment,
  each over the one before. The result has to have the shape of a configuration; values
  are not converted, and names that mean nothing are passed over.
-/
import ChatBot.Config
import ChatBot.Error
import ChatBot.Settings.Environment
import ChatBot.Text.CaseMap
import ChatBot.Toml.Reader
import ChatBot.Toml.Writer

namespace ChatBot

namespace SamplingPolicy

def toSetting (p : SamplingPolicy) : Setting :=
  .table [("likelihood", .number p.likelihood), ("excluded_commands", .list (p.excludedCommands.map .text))]

/-- The likelihood has no default of its own. -/
def ofSetting? (value : Setting) : Option SamplingPolicy := do
  match ← value.fields? ["likelihood", "excluded_commands"] with
  | [some likelihood, excluded] => some ⟨← likelihood.number?, ← Setting.orStandard Setting.texts? [] excluded⟩
  | _ => none

end SamplingPolicy

namespace Config

open Setting

def toSetting (c : Config) : Setting :=
  .table [
    ("prefix", .text c.marker),
    ("developers", .list (c.developers.map .text)),
    ("announce_unknown_commands", .flag c.announceUnknownCommands),
    ("mentions", .table [("reply_bot_names", .list (c.replyBotNames.map .text))]),
    ("lifecycle", .table [("loading_reaction", .text c.loadingReaction),
      ("identity_sync", c.identitySync.toSetting)]),
    ("messages", .table [("unknown_error", .text c.unknownError), ("login_command", .text c.loginCommand)])]

/-- The table of settings about mentions, over a configuration. -/
def withMentions? (c : Config) (value : Setting) : Option Config := do
  match ← value.fields? ["reply_bot_names"] with
  | [names] => some { c with replyBotNames := ← orStandard texts? standard.replyBotNames names }
  | _ => none

/-- The table of settings about a run, over a configuration. -/
def withLifecycle? (c : Config) (value : Setting) : Option Config := do
  match ← value.fields? ["loading_reaction", "identity_sync"] with
  | [reaction, sync] =>
    some { c with
      loadingReaction := ← orStandard text? standard.loadingReaction reaction
      identitySync := ← orStandard SamplingPolicy.ofSetting? standard.identitySync sync }
  | _ => none

/-- The table of texts, over a configuration. -/
def withMessages? (c : Config) (value : Setting) : Option Config := do
  match ← value.fields? ["unknown_error", "login_command"] with
  | [unknown, login] =>
    some { c with
      unknownError := ← orStandard text? standard.unknownError unknown
      loginCommand := ← orStandard text? standard.loginCommand login }
  | _ => none

/-- The configuration that a table of settings describes, defaults standing for what is
    missing. -/
def ofSetting? (value : Setting) : Option Config := do
  match ← value.fields? ["prefix", "developers", "announce_unknown_commands", "mentions", "lifecycle",
      "messages"] with
  | [marker, developers, announce, mentions, lifecycle, messages] =>
    let c := { standard with
      marker := ← orStandard text? standard.marker marker
      developers := ← orStandard texts? standard.developers developers
      announceUnknownCommands := ← orStandard flag? standard.announceUnknownCommands announce }
    let c ← orStandard c.withMentions? c mentions
    let c ← orStandard c.withLifecycle? c lifecycle
    orStandard c.withMessages? c messages
  | _ => none

end Config

/-! ## Sources -/

/-- A file that was asked for, and its text if it is there. -/
structure RequestedFile where
  path : String
  text : Option String

/-- Everything that settings are read from besides the defaults. -/
structure ConfigSources where
  /-- The text of the user's own file, if there is one. -/
  userFile : Option String
  requested : Option RequestedFile
  /-- Environment variables by name. -/
  environment : List (String × String)

namespace ConfigSources

/-- How the names of the environment variables begin. -/
def variableHead : String := "CADENCE_"

/-- The variables that name a setting or a table of settings. -/
def variableNames : List String := ((namesIn Config.standard.toSetting).map fun n => variableHead ++ Text.upper n)
where
  namesIn : Setting → List String
    | .table entries => namesOf entries
    | _ => []
  namesOf : List (String × Setting) → List String
    | [] => []
    | (name, value) :: rest => name :: (namesIn value).map (name ++ "__" ++ ·) ++ namesOf rest

/-- The settings of the files in turn. -/
def fileSettings (s : ConfigSources) : Option (List Setting) :=
  (s.userFile.toList ++ (s.requested.bind (·.text)).toList).mapM Toml.parse?

/-- All settings, later sources over earlier ones. -/
def settings? (s : ConfigSources) : Option Setting :=
  s.fileSettings.map fun files =>
    (files ++ [Settings.Environment.settings variableHead s.environment]).foldl .overlay
      Config.standard.toSetting

/-- The configuration. A file that was asked for has to be there. -/
def load (s : ConfigSources) : Except ConfigError Config :=
  match s.requested with
  | some ⟨path, none⟩ => .error (.fileNotFound path)
  | _ => match s.settings?.bind Config.ofSetting? with
    | some config => .ok config
    | none => .error .unreadable

end ConfigSources

/-- The configuration as a file. -/
def Config.fileText (c : Config) : String := Toml.render c.toSetting

end ChatBot
