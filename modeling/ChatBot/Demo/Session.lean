/-
  ChatBot.Demo.Session — who is typing and where, and what a typed line means.

  A line is nothing, a control that begins with a colon, or the text of a message. A
  control changes the session or asks something of the terminal; a message takes the next
  number of the session.
-/
import ChatBot.Argument.Mention
import ChatBot.Demo.People
import ChatBot.Text.Blank

namespace ChatBot.Demo

open Text

/-! ## Lines -/

inductive Control where
  | quit
  /-- Type as somebody else. -/
  | become (userId : Option String)
  /-- Leave the server. -/
  | directMessages
  /-- Enter a server. -/
  | server (guild : String)
  | metrics
  | unknown (word : String)
  deriving DecidableEq

/-- The control of the words after a colon; words that it does not ask for are passed
    over. -/
def Control.ofWords : List String → Control
  | [] => .unknown ""
  | word :: rest =>
    if word == "quit" || word == "q" || word == "exit" then .quit
    else if word == "as" then .become rest.head?
    else if word == "dm" then .directMessages
    else if word == "guild" then .server (rest.headD localGuild)
    else if word == "metrics" then .metrics
    else .unknown word

inductive Line where
  | nothing
  | control (control : Control)
  | message (text : String)
  deriving DecidableEq

/-- What a typed line means; blanks at its ends do not count. -/
def Line.ofText (text : String) : Line :=
  match trim text.toList with
  | [] => .nothing
  | ':' :: cs => .control (.ofWords ((words cs).map String.ofList))
  | cs => .message (String.ofList cs)

/-! ## Sessions -/

structure Session where
  author : PlatformUser
  /-- The server; none in direct messages. -/
  guildId : Option String
  /-- How many messages have been typed. -/
  typed : Nat
  deriving DecidableEq

namespace Session

def start (userId : String) (guild : Option String) : Session := ⟨personOrStranger userId, guild, 0⟩

/-- The people of the demonstration that a text mentions, in order. -/
def mentionsIn (text : String) : List PlatformUser :=
  (wordsOf text).filterMap fun w => (platformMention? w).bind person?

/-- The next message of the session. -/
def nextMessage (s : Session) (text : String) : InboundMessage where
  id := "local-" ++ toString (s.typed + 1)
  content := text
  author := s.author
  guildId := s.guildId
  channelId := "terminal"
  mentions := mentionsIn text
  replyTo := none
  authorRoles := []

def afterMessage (s : Session) : Session := { s with typed := s.typed + 1 }

/-- The session after a control. Somebody else begins a session of their own. -/
def after (s : Session) : Control → Session
  | .become (some userId) => start userId s.guildId
  | .directMessages => { s with guildId := none }
  | .server guild => { s with guildId := some guild }
  | _ => s

/-- The messages that typed lines give, up to the one that ends the session. -/
def messages : Session → List Line → List InboundMessage
  | _, [] => []
  | s, .nothing :: lines => messages s lines
  | _, .control .quit :: _ => []
  | s, .control c :: lines => messages (s.after c) lines
  | s, .message text :: lines => s.nextMessage text :: messages s.afterMessage lines

end Session

end ChatBot.Demo
