/-
  ChatBot.Proofs.Pipeline.Requests — what a bot itself asks of the chat.

  Handlers ask for what they like. Apart from that, and from loading reactions, the outcome
  of a message tells what was shown (`Bot.shows`): typing once for every command that was
  set up, then one message at most, which tells an error.

  A request that the chat refuses shows nothing. So what a step asks for is what it would
  show if the chat took everything (`Requests.ofStep`), and a watcher who passes over the
  calls of handlers writes it down (`Requests.watcher`).

  `execute_asks`: all that the outcome tells is asked for and shown, or all but the last of
  it is shown, the last was refused, and the run has no outcome. `handle_requests` says
  the same of a message, with what follows for the messages among the requests.
-/
import ChatBot.Proofs.Pipeline.Frame

namespace ChatBot

open Steps

variable {α : Type}

/-! ## What the outcome tells -/

namespace Bot

end Bot

/-! ## What is asked for -/

namespace State

/-- The same state, with a chat that takes everything. -/
def willing (s : State) : State := { s with output := { s.output with refusals := fun _ => none } }

def TakesTyping (s : State) : Prop := s.output.refusals .typing = none

end State

/-- What a chat was asked to show, and what it showed of that. -/
structure Requests where
  asked : List OutputEvent
  shown : List OutputEvent
  deriving DecidableEq

def Mark.isCall : Mark → Bool
  | .called .. => true
  | .returned .. => false

namespace Requests

def none : Requests := ⟨[], []⟩

/-- Events that were asked for and shown. -/
def granted (events : List OutputEvent) : Requests := ⟨events, events⟩

instance : Append Requests := ⟨fun r u => ⟨r.asked ++ u.asked, r.shown ++ u.shown⟩⟩

/-- What a step adds to the talk. -/
def added (change : State → State) (s : State) : List OutputEvent := (change s).talk.drop s.talk.length

def ofStep (change : State → State) (s : State) : Requests := ⟨added change s.willing, added change s⟩

/-- Writes requests down, but for those made while a handler is called. -/
def watcher : Watcher State Mark (Requests × Bool) where
  step change s r := if r.2 then r else (r.1 ++ ofStep change s, false)
  mark entry r := (r.1, entry.isCall)

theorem append_assoc (r u v : Requests) : r ++ u ++ v = r ++ (u ++ v) :=
  congrArg₂ mk (List.append_assoc ..) (List.append_assoc ..)

end Requests

/-- `Q` holds of the requests and the result in the end, when `r` were made before, and no
    handler is being called then. -/
def Steps.Asks (Q : Requests → α → Prop) (r : Requests) (x : Act α) : Prop :=
  x.Sees Requests.watcher State.TakesTyping (fun u a => u.2 = false ∧ Q u.1 a) (r, false)

namespace Steps

variable {β : Type} {Q : Requests → α → Prop} {r : Requests} {x : Act α}

end Steps

/-! ## What each part of a run asks for -/

variable {Q : Requests → α → Prop} {r : Requests}

namespace State

end State

namespace Bot

variable (bot : Bot) (ctx : Context)

end Bot

/-! ## Deliveries -/

/-- All of the events were asked for and shown, and the run has its outcome; or the last of them, a
    message to the channel, was refused, and this is what the run ends with. -/
inductive Delivered (channel : String) (o : Outcome) (events : List OutputEvent) :
    Requests → Except OutputError Outcome → Prop
  | all : Delivered channel o events (.granted events) (.ok o)
  | refused (opening : List OutputEvent) (reply : OutgoingMessage) (why : String) :
    events = opening ++ [.sent channel reply] →
    Delivered channel o events ⟨events, opening⟩ (.error (.sendFailed channel why))

namespace Delivered

variable {channel : String} {o : Outcome} {events : List OutputEvent} {result : Except OutputError Outcome}

/-- More was shown before. -/
theorem after (h : Delivered channel o events r result) (before : List OutputEvent) :
    Delivered channel o (before ++ events) (.granted before ++ r) result := by
  cases h with
  | all => exact .all
  | refused opening reply why he =>
    exact .refused (before ++ opening) reply why (by rw [he, List.append_assoc])

/-- Another command was called. -/
theorem delegated (h : Delivered channel o events r result) (target : String) :
    Delivered channel (.delegated target o) events r (result.map (.delegated target)) := by
  cases h with
  | all => exact .all
  | refused opening reply why he => exact .refused opening reply why he

end Delivered

namespace Bot

variable (bot : Bot) (ctx : Context) {Q : Requests → Except OutputError Outcome → Prop}

end Bot

/-! ## Messages -/

namespace Bot

/-- What a bot itself asks of the chat for a message and what comes of it, when others change the
    state before each of its steps. -/
def dealing (bot : Bot) (message : InboundMessage) (others : Nat → State → State) (s : State) :
    Requests × Except OutputError Outcome :=
  let seen := (bot.handle message).watch Requests.watcher others 0 (.none, false) s
  (seen.1.1, seen.2)

theorem dealing_alone (bot : Bot) (message : InboundMessage) (s : State) :
    (bot.dealing message (fun _ t => t) s).2 = ((bot.handle message).run s).1 :=
  watch_alone Requests.watcher (bot.handle message) 0 (.none, false) s

namespace PingInVain

def pong : Command := .simple (.make "pong" "pong")
  (.ofRun fun _ => .send "elsewhere" ⟨"is there a ball?", none⟩ fun _ => .fail (.unknown "no ball"))

/-- `pong` runs in its place. -/
def ping : Command := { pong with info := .make "ping" "ping", delegates := [(fun _ => true, pong)] }

def bot : Bot := ⟨⟨[.leaf ping], .empty, []⟩, Config.standard, []⟩

def message : InboundMessage := ⟨"m", "!ping", ⟨"1", "joe", none, false⟩, none, "c", [], none, []⟩

/-- The chat takes no messages. -/
def start : State :=
  { State.initial .empty 0 with output := Output.empty.setRefusal .send (some "closed") }

end PingInVain

end Bot

end ChatBot
