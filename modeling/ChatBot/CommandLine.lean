/-
  ChatBot.CommandLine — what the program is asked to do by its arguments, and the
  subcommands about configuration.
-/
import ChatBot.Demo.Commands
import ChatBot.Demo.Session
import ChatBot.Files.Tree
import ChatBot.Settings.Load

namespace ChatBot.CommandLine

/-! ## Subcommands -/

inductive Subcommand where
  /-- Lists the visible commands. -/
  | list
  /-- Shows the configuration in force. -/
  | showConfig
  /-- Says what is odd about the configuration. -/
  | validate
  /-- Writes the default configuration. -/
  | create (path : String)
  deriving DecidableEq

/-- A text filled up with spaces to a width in characters. -/
def padded (width : Nat) (text : String) : String :=
  text ++ String.ofList (List.replicate (width - text.length) ' ')

/-- A command in the list, as it is typed. -/
def entry (marker : String) (node : Node) : String :=
  let info := node.command.info
  marker ++ padded 24 node.friendlyName ++ " " ++ info.description ++
    if info.aliases.isEmpty then "" else " (aliases: " ++ ", ".intercalate info.aliases ++ ")"

/-- Nothing runs, so the registry is given to nobody. -/
def listCommands (config : Config) : Except RegistryError (List String) :=
  (Demo.registry .empty).map fun r => r.list.map (entry config.marker)

/-- Why a subcommand failed. -/
inductive Failure where
  | config (cause : ConfigError)
  | registry (cause : RegistryError)
  deriving DecidableEq

def Failure.message : Failure → String
  | .config e => (BotError.config e).message
  | .registry e => e.message

def loadConfig (sources : ConfigSources) : Except Failure Config :=
  match sources.load with
  | .ok config => .ok config
  | .error e => .error (.config e)

/-- Writes the default configuration unless something is at the path; tells which. -/
def createConfig {m : Type → Type} [Monad m] [FileAccess m] (path : String) : m String := do
  let p := Path.ofText path
  if ← FileAccess.present p then return "Configuration file already exists at: " ++ path
  if let some parent := p.parent? then FileAccess.makeDirectories parent
  FileAccess.write p Config.standard.fileText
  return "Created default configuration at: " ++ path

/-- Runs a subcommand: what it prints, text by text. -/
def Subcommand.run {m : Type → Type} [Monad m] [FileAccess m] (sources : ConfigSources) :
    Subcommand → ExceptT Failure m (List String)
  | .list => do
    match listCommands (← loadConfig sources) with
    | .ok lines => return lines
    | .error e => throw (.registry e)
  | .showConfig => do return [(← loadConfig sources).fileText]
  | .validate => do
    match (← loadConfig sources).warnings with
    | [] => return ["Configuration is valid."]
    | warnings => return warnings.map ("warning: " ++ ·)
  | .create path => do return [← (createConfig path : m String)]

/-! ## Arguments -/

structure Options where
  config : Option String
  user : String
  guild : String
  direct : Bool
  quiet : Bool
  /-- The words that are no options. -/
  words : List String

def Options.standard : Options := ⟨none, "1", Demo.localGuild, false, false, []⟩

/-- The options and words of the program's arguments, or the argument that cannot be
    used. -/
def Options.parse (o : Options) : List String → Except String Options
  | [] => .ok o
  | name :: rest =>
    if name == "--quiet" || name == "-q" then parse { o with quiet := true } rest
    else if name == "--dm" then parse { o with direct := true } rest
    else if name.startsWith "-" then match rest with
      | value :: rest =>
        if name == "--config" || name == "-c" then parse { o with config := some value } rest
        else if name == "--user" || name == "-u" then parse { o with user := value } rest
        else if name == "--guild" || name == "-g" then parse { o with guild := value } rest
        else .error name
      | [] => .error name
    else parse { o with words := o.words ++ [name] } rest

def Options.session (o : Options) : Demo.Session := .start o.user (if o.direct then none else some o.guild)

/-- What the words ask for. -/
inductive Task where
  | subcommand (subcommand : Subcommand)
  /-- One message. -/
  | message (text : String)
  /-- Lines from the terminal. -/
  | interactive

def Task.ofWords : List String → Except String Task
  | [] => .ok .interactive
  | ["list"] => .ok (.subcommand .list)
  | ["config", "show"] => .ok (.subcommand .showConfig)
  | ["config", "validate"] => .ok (.subcommand .validate)
  | ["config", "init"] => .ok (.subcommand (.create "cadence.toml"))
  | ["config", "init", path] => .ok (.subcommand (.create path))
  | [text] => .ok (.message text)
  | _ :: extra :: _ => .error extra

end ChatBot.CommandLine
