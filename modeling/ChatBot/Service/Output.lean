/-
  ChatBot.Service.Output — what the chat was shown: messages, typing, reactions.
-/
import ChatBot.Error
import ChatBot.Service.Message

namespace ChatBot

/-- Something shown in the chat. -/
inductive OutputEvent where
  | sent (channel : String) (message : OutgoingMessage)
  | typing (channel : String)
  | reacted (messageId emoji : String)
  | unreacted (messageId emoji : String)
  deriving DecidableEq

/-- A request to the chat. -/
inductive OutputCall where
  | send | typing | react | unreact
  deriving DecidableEq

/-- The chat so far. -/
structure Output where
  events : List OutputEvent
  /-- How many messages were delivered. -/
  delivered : Nat
  /-- The requests that fail, and what the chat answers to them. -/
  refusals : OutputCall → Option String

namespace Output

def empty : Output := ⟨[], 0, fun _ => none⟩

def setRefusal (o : Output) (call : OutputCall) (refusal : Option String) : Output :=
  { o with refusals := fun c => if c = call then refusal else o.refusals c }

def record (o : Output) (event : OutputEvent) : Output := { o with events := o.events ++ [event] }

/-- Delivers a message. Only delivered ones are numbered. -/
def send (o : Output) (channel : String) (message : OutgoingMessage) :
    Except OutputError SentMessage × Output :=
  match o.refusals .send with
  | some why => (.error (.sendFailed channel why), o)
  | none =>
    (.ok ⟨"sent-" ++ toString (o.delivered + 1), channel⟩,
      { o with events := o.events ++ [.sent channel message], delivered := o.delivered + 1 })

/-- Shows an event, unless the chat refuses it. -/
def present (o : Output) (call : OutputCall) (failure : String → OutputError) (event : OutputEvent) :
    Except OutputError Unit × Output :=
  match o.refusals call with
  | some why => (.error (failure why), o)
  | none => (.ok (), o.record event)

def startTyping (o : Output) (channel : String) : Except OutputError Unit × Output :=
  o.present .typing (.sendFailed channel) (.typing channel)

def react (o : Output) (messageId emoji : String) : Except OutputError Unit × Output :=
  o.present .react (.reactionFailed messageId) (.reacted messageId emoji)

def unreact (o : Output) (messageId emoji : String) : Except OutputError Unit × Output :=
  o.present .unreact (.reactionFailed messageId) (.unreacted messageId emoji)

/-! ## What a request leaves alone -/

theorem send_refusals (o : Output) (channel : String) (message : OutgoingMessage) :
    (o.send channel message).2.refusals = o.refusals := by
  unfold send
  split <;> rfl

theorem present_refusals (o : Output) (call : OutputCall) (failure : String → OutputError) (event : OutputEvent) :
    (o.present call failure event).2.refusals = o.refusals := by
  unfold present
  split <;> rfl

theorem present_filter (o : Output) (call : OutputCall) (failure : String → OutputError) {event : OutputEvent}
    {p : OutputEvent → Bool} (h : p event = false) :
    (o.present call failure event).2.events.filter p = o.events.filter p := by
  unfold present
  split <;> simp [record, h]

/-- The texts of the messages sent, in order. -/
def sentTexts (o : Output) : List String :=
  o.events.filterMap fun e => match e with
    | .sent _ m => some m.text
    | _ => none

end Output

end ChatBot
