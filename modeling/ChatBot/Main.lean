/-
  ChatBot.Main — the program: reads its sources, runs what its arguments ask for, and
  shows the result.
-/
import ChatBot.CommandLine
import ChatBot.Demo.Terminal
import Std.Time.DateTime.Timestamp

namespace ChatBot.Main

open CommandLine Demo

/-- The text of a file, if it can be read. -/
def fileText? (path : String) : IO (Option String) := do
  try return some (← IO.FS.readFile path) catch _ => return none

/-- The user's own configuration file. -/
def userFile? : IO (Option String) := do
  match ← IO.getEnv "XDG_CONFIG_HOME", ← IO.getEnv "HOME" with
  | some home, _ => fileText? (home ++ "/cadence/config.toml")
  | none, some home => fileText? (home ++ "/.config/cadence/config.toml")
  | none, none => return none

def sources (options : Options) : IO ConfigSources := do
  let requested ← match options.config with
    | some path => do pure (some ⟨path, ← fileText? path⟩)
    | none => pure none
  let environment ← ConfigSources.variableNames.filterMapM fun name => do
    return (← IO.getEnv name).map (name, ·)
  return ⟨← userFile?, requested, environment⟩

def now : IO Instant := do return (← Std.Time.Timestamp.now).toSecondsSinceUnixEpoch.val

def display (screen : Screen) : IO Unit := do
  screen.remarks.forM fun text => IO.eprintln text
  screen.printed.forM fun text => IO.println text

/-- Ends the program with a message. -/
def stop (message : String) : IO UInt32 := do
  IO.eprintln ("Error: " ++ message)
  return 1

instance : FileAccess IO where
  present p := do
    try
      let _ ← IO.FS.realPath p.text
      return true
    catch _ => return false
  makeDirectories p := unless p.isBlank do IO.FS.createDirAll p.text
  write p text := IO.FS.writeFile p.text text

def runSubcommand (sources : ConfigSources) (subcommand : Subcommand) : IO UInt32 := do
  try
    match ← (subcommand.run sources).run with
    | .error e => stop e.message
    | .ok printed =>
      printed.forM fun text => IO.println text
      return 0
  catch e => stop (toString e)

partial def converse (input : IO.FS.Stream) (terminal : Terminal) : IO UInt32 := do
  let line ← input.getLine
  if line.isEmpty then return 0
  let (screen, next) := terminal.enter (← now) line
  display screen
  match next with
  | some terminal => converse input terminal
  | none => return 0

/-- The bot at the terminal, for one message or for as many as are typed. -/
def runBot (options : Options) (config : Config) (message : Option String) : IO UInt32 := do
  if !options.quiet then config.warnings.forM fun w => IO.eprintln ("warning: " ++ w)
  match Terminal.start config options.quiet options.session (← now), message with
  | .error e, _ => stop e.message
  | .ok terminal, some text =>
    let (outcome, screen) := terminal.single (← now) text
    display screen
    match outcome with
    | .ok () => return 0
    | .error e => stop e.message
  | .ok terminal, none =>
    display terminal.greeting
    converse (← IO.getStdin) terminal

def run (arguments : List String) : IO UInt32 := do
  match Options.standard.parse arguments with
  | .error argument => stop ("unexpected argument '" ++ argument ++ "'")
  | .ok options => match Task.ofWords options.words with
    | .error word => stop ("unexpected argument '" ++ word ++ "'")
    | .ok task =>
      let sources ← sources options
      match task with
      | .subcommand subcommand => runSubcommand sources subcommand
      | .message text => withConfig sources fun config => runBot options config (some text)
      | .interactive => withConfig sources fun config => runBot options config none
where
  withConfig (sources : ConfigSources) (go : Config → IO UInt32) : IO UInt32 :=
    match loadConfig sources with
    | .ok config => go config
    | .error e => stop e.message

end ChatBot.Main

def main (arguments : List String) : IO UInt32 := ChatBot.Main.run arguments
