/-
  ChatBot.Demo.Terminal — the demonstration bot at a terminal.

  Replies are printed, remarks on the session go beside them (`Screen`). Each typed line
  changes the terminal in one step (`Terminal.enter`); a quiet terminal leaves out the
  greeting and the loading reactions.
-/
import ChatBot.Demo.Commands
import ChatBot.Demo.Session
import ChatBot.Json.Forms
import ChatBot.Pipeline.Run

namespace ChatBot.Demo

/-- What is shown, text by text. -/
structure Screen where
  printed : List String
  remarks : List String
  deriving DecidableEq

namespace Screen

def blank : Screen := ⟨[], []⟩

def print (text : String) : Screen := ⟨[text], []⟩

def remark (text : String) : Screen := ⟨[], [text]⟩

def append (a b : Screen) : Screen := ⟨a.printed ++ b.printed, a.remarks ++ b.remarks⟩

instance : Append Screen := ⟨append⟩

/-- How an event of the chat shows. -/
def ofEvent (quiet : Bool) : OutputEvent → Screen
  | .sent _ message => ⟨message.text :: (message.footer.map fun f => "  (" ++ f ++ ")").toList, []⟩
  | .reacted _ emoji => if quiet then blank else remark ("[" ++ emoji ++ " working...]")
  | _ => blank

def ofEvents (quiet : Bool) (events : List OutputEvent) : Screen :=
  events.foldl (fun screen e => screen ++ ofEvent quiet e) blank

end Screen

structure Terminal where
  bot : Bot
  quiet : Bool
  /-- When the bot was started. -/
  started : Instant
  session : Session
  state : State

namespace Terminal

def start (config : Config) (quiet : Bool) (session : Session) (now : Instant) :
    Except RegistryError Terminal := do
  return ⟨⟨← registry .filled, config, []⟩, quiet, now, session, .initial (stores now) now⟩

/-- How a person is presented. -/
def present (u : PlatformUser) : String := u.name ++ " (" ++ u.id ++ ")"

def greeting (t : Terminal) : Screen :=
  if t.quiet then .blank
  else .remark ("cadence: type messages as " ++ present t.session.author ++ ", prefix `" ++ t.bot.config.marker ++
    "`. `:quit` to exit.")

/-! ## Messages -/

/-- What is remarked on how a message was handled. -/
def remarkOn (t : Terminal) : Except OutputError Outcome → Screen
  | .ok .notFound =>
    if t.bot.config.announceUnknownCommands then .blank else .remark "(no command matched)"
  | .ok .rolledOut => .remark "(command not available here)"
  | .ok _ => .blank
  | .error e => .remark ("error: " ++ (BotError.output e).message)

/-- Hands a message to the bot: the outcome, what the chat shows of it, and the terminal
    afterwards. -/
def deliver (t : Terminal) (now : Instant) (text : String) : Except OutputError Outcome × Screen × Terminal :=
  let (outcome, state) := (t.bot.handleAndSettle (t.session.nextMessage text)).run { t.state with today := now }
  (outcome, .ofEvents t.quiet (state.output.events.drop t.state.output.events.length),
    { t with session := t.session.afterMessage, state := state })

/-- One message and no more; an outcome that could not be told is a failure. -/
def single (t : Terminal) (now : Instant) (text : String) : Except BotError Unit × Screen :=
  let (outcome, shown, t) := t.deliver now text
  match outcome with
  | .ok o => (.ok (), shown ++ t.remarkOn (.ok o))
  | .error e => (.error (.output e), shown)

/-! ## Lines -/

/-- What a control shows, in the session that it leads to. -/
def controlScreen (t : Terminal) (now : Instant) (session : Session) : Control → Screen
  | .quit => .blank
  | .become (some _) => .remark ("now typing as " ++ present session.author)
  | .become none => .remark "usage: :as <user id>"
  | .directMessages => .remark "now in direct messages"
  | .server guild => .remark ("now in server " ++ guild)
  | .metrics => .print (t.state.metrics.toJson (now - t.started).toNat).pretty
  | .unknown word => .remark ("unknown control `:" ++ word ++ "`")

/-- A typed line: what it shows, and the terminal after it unless it ends the session. -/
def enter (t : Terminal) (now : Instant) (line : String) : Screen × Option Terminal :=
  match Line.ofText line with
  | .nothing => (.blank, some t)
  | .control .quit => (.blank, none)
  | .control c =>
    let session := t.session.after c
    (t.controlScreen now session c, some { t with session := session })
  | .message text =>
    let (outcome, shown, t) := t.deliver now text
    (shown ++ t.remarkOn outcome, some t)

/-- Lines one after another, until one ends the session. -/
def enterAll (t : Terminal) (now : Instant) : List String → Screen
  | [] => .blank
  | line :: lines => match t.enter now line with
    | (screen, some t) => screen ++ t.enterAll now lines
    | (screen, none) => screen

end Terminal

end ChatBot.Demo
