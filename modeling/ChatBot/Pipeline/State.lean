/-
  ChatBot.Pipeline.State — what runs read and change: the stores, the chat, what the
  operators see, and a clock with the loading reactions that wait for it.

  The clock moves only while a program sleeps (`advance`). Hooks are started during a run
  and go ahead whenever the run waits (`settle`); a run never waits for anything else.
  Whatever is read and then changed in one call of a service is one step, so that runs
  side by side do not undo each other's changes.
-/
import ChatBot.Command.Registry
import ChatBot.Metrics
import ChatBot.Pipeline.Steps
import ChatBot.Service.Monitor
import ChatBot.Service.Output

namespace ChatBot

/-- A side action that is started for a run. -/
inductive HookAction where
  /-- Pushes the author's record to the analytics service. -/
  | syncIdentity
  /-- Leaves a trace, and then may fail. -/
  | log (fails : Bool)
  deriving DecidableEq

structure Hook where
  name : String
  policy : SamplingPolicy
  action : HookAction

/-- A hook that was started and has not run yet. -/
structure StartedHook where
  hook : Hook
  authorId : String
  command : String

/-- That a logging hook ran. -/
structure HookTrace where
  hook : String
  authorId : String
  command : String
  deriving DecidableEq

/-- A loading reaction: when it is due, where it goes, and how showing it went. -/
structure LoadingReaction where
  due : Nat
  messageId : String
  emoji : String
  /-- None before it is due; then, whether the chat took it. -/
  shown : Option Bool
  deriving DecidableEq

structure State where
  stores : Stores
  output : Output
  monitor : Monitor
  metrics : Metrics
  /-- The moment of the message, from which periods go back. -/
  today : Instant
  /-- The draw by which hooks are sampled. -/
  draw : Float
  /-- Milliseconds since the bot started. -/
  clock : Nat
  /-- Loading reactions by number. -/
  reactions : Dict Nat LoadingReaction
  nextReaction : Nat
  started : List StartedHook
  hookTraces : List HookTrace
  notes : List Note

/-- What a watcher of a run is told: a part of a handler is called, and how it ended. -/
inductive Mark where
  | called (part : Handler.Part) (command : Command) (ctx : Context)
  | returned (part : Handler.Part) (command : Command) (result : Except CommandError Unit)

/-- A computation that changes the state, step by step. -/
abbrev Act := Steps State Mark

namespace State

def initial (stores : Stores) (today : Instant) : State where
  stores := stores
  output := .empty
  monitor := .empty
  metrics := .zero
  today := today
  draw := 0.5
  clock := 0
  reactions := .empty
  nextReaction := 0
  started := []
  hookTraces := []
  notes := []

def mapStores (s : State) (f : Stores → Stores) : State := { s with stores := f s.stores }

def mapGates (s : State) (f : GateRecords → GateRecords) : State :=
  s.mapStores fun t => { t with gates := f t.gates }

/-! ## Small steps -/

def count (event : Metrics.Event) : Act Unit :=
  modify fun s => { s with metrics := s.metrics.record event }

def countFor (counter : String) : Act Unit :=
  modify fun s => { s with monitor := s.monitor.increment counter }

def report (r : ErrorReport) : Act Unit :=
  modify fun s => { s with monitor := s.monitor.report r }

def note (entry : Note) : Act Unit := modify fun s => { s with notes := s.notes ++ [entry] }

/-- A request to the chat. -/
def request {α : Type} (ask : Output → α × Output) : Act α :=
  modifyGet fun s => ((ask s.output).1, { s with output := (ask s.output).2 })

def send (channel : String) (message : OutgoingMessage) : Act (Except OutputError SentMessage) :=
  request fun o => o.send channel message

def startTyping (channel : String) : Act (Except OutputError Unit) :=
  request fun o => o.startTyping channel

def unreact (messageId emoji : String) : Act (Except OutputError Unit) :=
  request fun o => o.unreact messageId emoji

/-! ## Hooks -/

/-- Pushes a user's record, if there is an account in it. -/
def syncIdentity (userId : String) (stores : Stores) : Except ServiceError Stores := do
  match ← stores.user userId with
  | none => .ok stores
  | some identity =>
    match identity.remoteUsername, stores.analytics with
    | some _, some analytics => do
      let analytics ← analytics.sync identity
      .ok { stores with analytics := some analytics }
    | _, _ => .ok stores

/-- A hook that goes ahead; its failure is counted and nothing else. -/
def runHook (started : StartedHook) : Act Unit :=
  match started.hook.action with
  | .syncIdentity => do
    let synced ← modifyGet fun s => match syncIdentity started.authorId s.stores with
      | .ok stores => (true, { s with stores := stores })
      | .error _ => (false, s)
    if !synced then count .hookFailure
  | .log fails => do
    modify fun s => { s with
      hookTraces := s.hookTraces ++ [⟨started.hook.name, started.authorId, started.command⟩] }
    if fails then count .hookFailure

/-- Lets every started hook run, in order. -/
def settle : Act Unit := do
  let started ← modifyGet fun s => (s.started, { s with started := [] })
  started.forM runHook

/-! ## The clock -/

/-- A loading reaction that waits to be shown. -/
def waiting? (s : State) (number : Nat) : Option LoadingReaction :=
  (s.reactions.get? number).filter (·.shown.isNone)

/-- A loading reaction is due: it is shown, unless it was shown before or taken back. To
    show it and to keep how that went is one step, for nobody who takes it back comes
    between the two. -/
def fire (number : Nat) (s : State) : State :=
  match s.waiting? number with
  | none => s
  | some reaction =>
    let (answer, output) := s.output.react reaction.messageId reaction.emoji
    { s with
      output := output
      reactions := s.reactions.insert number { reaction with shown := some answer.toBool } }

theorem fire_of_waiting {s : State} {number : Nat} {reaction : LoadingReaction}
    (h : s.waiting? number = some reaction) :
    s.fire number = { s with
      output := (s.output.react reaction.messageId reaction.emoji).2
      reactions := s.reactions.insert number
        { reaction with shown := some (s.output.react reaction.messageId reaction.emoji).1.toBool } } := by
  simp only [fire, h]

theorem fire_of_not_waiting {s : State} {number : Nat} (h : s.waiting? number = none) : s.fire number = s := by
  simp only [fire, h]

/-- The reactions due before a moment and not shown yet, the earliest first. -/
def dueBefore (moment : Nat) (s : State) : List (Nat × LoadingReaction) :=
  (s.reactions.entries.filter fun r => r.2.shown.isNone && r.2.due < moment).mergeSort
    fun a b => a.2.due ≤ b.2.due

/-- Lets time pass. Nothing happens in no time. -/
def advance (milliseconds : Nat) : Act Unit := do
  if milliseconds > 0 then
    settle
    let s ← get
    let moment := s.clock + milliseconds
    (dueBefore moment s).forM fun r => modify (·.fire r.1)
    modify fun s => { s with clock := moment }

end State

end ChatBot
