/-
  ChatBot.Config — the settings of a bot, their defaults, and what is odd about them.
-/
import ChatBot.Decimal.Shortest
import ChatBot.Text.Ascii
import ChatBot.Text.Blank

namespace ChatBot

open Text

/-- How often a hook runs, and the commands for which it never does. -/
structure SamplingPolicy where
  /-- A probability; less than 0 counts as 0 and more than 1 as 1. -/
  likelihood : Float
  excludedCommands : List String

namespace SamplingPolicy

def always : SamplingPolicy := ⟨1.0, []⟩

def excludes (p : SamplingPolicy) (command : String) : Bool := p.excludedCommands.any (alike · command)

/-- The hook runs when `draw`, taken evenly from 0 up to but not 1, is below the
    likelihood. -/
def selects (p : SamplingPolicy) (draw : Float) (command : String) : Bool :=
  !p.excludes command && 0.0 < p.likelihood && (1.0 ≤ p.likelihood || draw < p.likelihood)

end SamplingPolicy

structure Config where
  /-- The text that makes a message an invocation. -/
  marker : String
  /-- The platform ids of those who may run everything. -/
  developers : List String
  /-- Unknown commands are answered. -/
  announceUnknownCommands : Bool
  /-- The bots whose mention by a reply stands for the next mention; none means any. -/
  replyBotNames : List String
  /-- The reaction shown while a slow command runs. -/
  loadingReaction : String
  /-- The sampling of the identity sync. -/
  identitySync : SamplingPolicy
  /-- What the user is told of an internal error. -/
  unknownError : String
  /-- The command that links an account. -/
  loginCommand : String

namespace Config

def standard : Config where
  marker := "!"
  developers := []
  announceUnknownCommands := false
  replyBotNames := []
  loadingReaction := "⏳"
  identitySync := ⟨0.33, ["update", "index", "login", "logout"]⟩
  unknownError := "Something went wrong running that command, please try again later."
  loginCommand := "login"

def isDeveloper (c : Config) (userId : String) : Bool := c.developers.contains userId

/-- The login command as typed. -/
def loginInvocation (c : Config) : String := c.marker ++ c.loginCommand

/-- What is odd about the settings. -/
def warnings (c : Config) : List String :=
  let likelihood := c.identitySync.likelihood
  (if isBlankText c.marker then ["prefix is empty, no message will be treated as a command"] else []) ++
  (if c.marker.toList.any isBlank then
    ["prefix '" ++ c.marker ++ "' contains whitespace and may never match"] else []) ++
  (if 0.0 ≤ likelihood && likelihood ≤ 1.0 then []
    else ["lifecycle.identity_sync.likelihood is " ++ Decimal.ofFloat likelihood ++
      ", it will be clamped to 0.0..=1.0"]) ++
  (if c.developers.isEmpty then ["no developers configured, dev-only commands cannot run"] else []) ++
  (if isBlankText c.loginCommand then ["messages.login_command is empty"] else [])

end Config

end ChatBot
