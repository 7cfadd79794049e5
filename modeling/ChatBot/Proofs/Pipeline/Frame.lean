/-
  ChatBot.Proofs.Pipeline.Frame — what the parts of a run leave alone.

  (1) Nothing that a handler asks for is written into the books, and neither is what is
      done before and after it (`exec_keeps_books`, `leave_keeps_books`).
  (2) Nobody changes what the chat refuses (`exec_keeps`), and all that is done after a
      handler shows nothing but that the loading reaction is gone (`leave_keeps`).
  (3) Nothing that comes before a handler changes what the gate and the arguments are
      taken from (`setUp_keeps`, `askGate_keeps`), and neither does telling an error.
  (4) Time that passes and what follows a handler leave which services fail, and what
      admins decided (`advance_keeps`, `takeDown_keeps`).
-/
import ChatBot.Pipeline.Traffic
import ChatBot.Proofs.Steps

namespace ChatBot

open Steps

/-- What the decisions of a run are taken from. -/
def State.grounds (s : State) : Stores × Instant := (s.stores, s.today)

/-- What the chat is shown apart from loading reactions. -/
def OutputEvent.isTalk : OutputEvent → Bool
  | .sent .. | .typing _ => true
  | .reacted .. | .unreacted .. => false

/-- The talk so far, and what the chat refuses. -/
def Output.chat (o : Output) : List OutputEvent × (OutputCall → Option String) :=
  (o.events.filter (·.isTalk), o.refusals)

def State.chat (s : State) : List OutputEvent × (OutputCall → Option String) := s.output.chat

def State.talk (s : State) : List OutputEvent := s.chat.1

/-- Which services fail, and what admins decided. -/
def State.standing (s : State) : (ServiceCall → Option ServiceError) × GateRecords := (s.stores.outages, s.stores.gates)

variable {γ : Type} {f : State → γ}

namespace State

theorem stores_of_grounds {s t : State} (h : s.grounds = t.grounds) : s.stores = t.stores := congrArg Prod.fst h

theorem today_of_grounds {s t : State} (h : s.grounds = t.grounds) : s.today = t.today := congrArg Prod.snd h

theorem keeps_request {α : Type} {ask : Output → α × Output}
    (h : ∀ s : State, f { s with output := (ask s.output).2 } = f s) : (request ask).Keeps f :=
  keeps_modifyGet h

theorem send_keeps (channel : String) (message : OutgoingMessage) :
    (send channel message).Keeps fun s => (s.books, s.output.refusals) :=
  keeps_request fun s => Prod.ext rfl (s.output.send_refusals channel message)

theorem startTyping_keeps (channel : String) :
    (startTyping channel).Keeps fun s => (s.books, s.output.refusals) :=
  keeps_request fun s => Prod.ext rfl (s.output.present_refusals ..)

theorem unreact_keeps (messageId emoji : String) :
    (unreact messageId emoji).Keeps fun s => (s.books, s.chat, s.standing) :=
  keeps_request fun s => by
    have htalk : (s.output.unreact messageId emoji).2.events.filter (·.isTalk) = s.talk :=
      Output.present_filter _ _ _ rfl
    have hrefusals : (s.output.unreact messageId emoji).2.refusals = s.output.refusals := Output.present_refusals ..
    exact Prod.ext rfl (Prod.ext (Prod.ext htalk hrefusals) rfl)

theorem keeps_count {event : Metrics.Event}
    (h : ∀ s : State, f { s with metrics := s.metrics.record event } = f s) : (count event).Keeps f :=
  keeps_modify h

theorem count_keeps_grounds (event : Metrics.Event) : (count event).Keeps grounds := keeps_count fun _ => rfl

theorem countFor_keeps_grounds (counter : String) : (countFor counter).Keeps grounds := keeps_modify fun _ => rfl

/-- Only the analytics service learns something. -/
theorem syncIdentity_eq_ok {id : String} {stores stores' : Stores} (h : syncIdentity id stores = .ok stores') :
    stores'.outages = stores.outages ∧ stores'.gates = stores.gates := by
  obtain ⟨identity, -, h⟩ := bind_eq_ok.mp h
  split at h
  · cases h
    exact ⟨rfl, rfl⟩
  split at h
  · obtain ⟨analytics, -, h⟩ := bind_eq_ok.mp h
    cases h
    exact ⟨rfl, rfl⟩
  · cases h
    exact ⟨rfl, rfl⟩

theorem runHook_keeps (h : StartedHook) :
    (runHook h).Keeps fun s => (s.books, s.output, s.reactions, s.nextReaction, s.standing) := by
  unfold runHook
  split
  · refine (keeps_modifyGet fun s => ?_).bind fun synced => ?_
    · cases hsync : syncIdentity h.authorId s.stores with
      | ok stores => simp only [books, standing, syncIdentity_eq_ok hsync]
      | error e => rfl
    · split
      · exact keeps_count fun _ => rfl
      · exact keeps_done _
  · refine Keeps.bind (keeps_modify fun _ => rfl) fun _ => ?_
    split
    · exact keeps_count fun _ => rfl
    · exact keeps_done _

theorem settle_keeps : settle.Keeps fun s => (s.books, s.output, s.reactions, s.nextReaction, s.standing) :=
  (keeps_modifyGet fun _ => rfl).bind fun _ => keeps_forM fun h _ => runHook_keeps h

theorem fire_keeps (number : Nat) (s : State) :
    ((s.fire number).books, (s.fire number).output.refusals, (s.fire number).standing) =
      (s.books, s.output.refusals, s.standing) := by
  cases h : s.waiting? number with
  | none => rw [fire_of_not_waiting h]
  | some reaction =>
    rw [fire_of_waiting h]
    exact Prod.ext rfl (Prod.ext (s.output.present_refusals ..) rfl)

theorem advance_keeps (milliseconds : Nat) :
    (advance milliseconds).Keeps fun s => (s.books, s.output.refusals, s.standing) := by
  unfold advance
  split
  · refine (settle_keeps.comp fun k => (k.1, k.2.1.refusals, k.2.2.2.2)).bind fun _ => keeps_get.bind fun s => ?_
    exact (keeps_forM fun r _ => keeps_modify (fire_keeps r.1)).bind fun _ => keeps_modify fun _ => rfl
  · exact keeps_done _

end State

/-! ## (1), (2) handlers, and what is done after them -/

theorem Program.exec_keeps (bot : Bot) (ctx : Context) (p : Program) :
    (p.exec bot ctx).Keeps fun s => (s.books, s.output.refusals) := by
  induction p with
  | done => exact keeps_done _
  | fail e => exact keeps_done _
  | send channel message next ih => exact (State.send_keeps ..).bind ih
  | startTyping channel next ih => exact (State.startTyping_keeps _).bind ih
  | resolve options next ih => exact keeps_get.bind fun _ => ih _
  | sleep milliseconds next ih => exact ((State.advance_keeps _).comp fun k => (k.1, k.2.1)).bind fun _ => ih
  | lookup name next ih => exact ih _
  | keepIdentity identity next ih => exact (keeps_modify fun _ => rfl).bind fun _ => ih
  | disable guild command devOnly next ih => exact (keeps_modify fun _ => rfl).bind fun _ => ih
  | enable guild command next ih => exact (keeps_modifyGet fun _ => rfl).bind ih
  | note entry next ih => exact (keeps_modify fun _ => rfl).bind fun _ => ih

theorem Program.exec_keeps_books (bot : Bot) (ctx : Context) (p : Program) : (p.exec bot ctx).Keeps State.books :=
  (p.exec_keeps bot ctx).comp Prod.fst

namespace Bot

theorem takeDown_keeps (ctx : Context) (bot : Bot) (reaction : Option Nat) :
    (takeDown ctx bot reaction).Keeps fun s => (s.books, s.chat, s.standing) := by
  unfold takeDown
  split
  · exact keeps_done _
  · refine (State.settle_keeps.comp fun k => (k.1, k.2.1.chat, k.2.2.2.2)).bind fun _ => ?_
    refine (keeps_modifyGet fun _ => rfl).bind fun reaction => ?_
    split
    · exact (State.unreact_keeps ..).bind fun _ => keeps_done _
    · exact keeps_done _

theorem leave_keeps (bot : Bot) (ctx : Context) (reaction : Option Nat) (o : Except OutputError Outcome) :
    (bot.leave ctx reaction o).Keeps fun s => (s.books, s.chat) := by
  cases o with
  | error e => exact keeps_done _
  | ok o => exact ((takeDown_keeps ..).comp fun k => (k.1, k.2.1)).bind fun _ => keeps_done _

theorem leave_keeps_books (bot : Bot) (ctx : Context) (reaction : Option Nat) (o : Except OutputError Outcome) :
    (bot.leave ctx reaction o).Keeps State.books :=
  (bot.leave_keeps ctx reaction o).comp Prod.fst

theorem announceUnknown_keeps_books (bot : Bot) (message : InboundMessage) (text : String) (e : CommandError) :
    (bot.announceUnknown message text e).Keeps State.books := by
  unfold announceUnknown
  split
  · exact (State.keeps_request fun _ => rfl).bind fun _ => keeps_done _
  · exact keeps_done _

/-! ## (3) the grounds of the decisions -/

theorem arrangeReaction_keeps (bot : Bot) (ctx : Context) (after : Option Nat) :
    (bot.arrangeReaction ctx after).Keeps fun s => (s.books, s.grounds, s.output) := by
  unfold arrangeReaction
  split
  · exact keeps_done _
  · exact keeps_modifyGet fun _ => rfl

theorem startHooks_keeps (bot : Bot) (ctx : Context) :
    (bot.startHooks ctx).Keeps fun s => (s.books, s.grounds, s.output) :=
  keeps_modify fun _ => rfl

theorem setUp_keeps (bot : Bot) (command : Command) (ctx : Context) :
    (bot.setUp command ctx).Keeps fun s => (s.books, s.grounds, s.output.refusals) := by
  have htyping : (State.startTyping ctx.message.channelId).Keeps fun s => (s.books, s.grounds, s.output.refusals) :=
    State.keeps_request fun s => Prod.ext rfl (Prod.ext rfl (s.output.present_refusals ..))
  refine htyping.bind fun _ => ?_
  refine ((bot.arrangeReaction_keeps ..).comp fun k => (k.1, k.2.1, k.2.2.refusals)).bind fun _ => ?_
  exact ((bot.startHooks_keeps ctx).comp fun k => (k.1, k.2.1, k.2.2.refusals)).bind fun _ => keeps_done _

theorem askGate_keeps (bot : Bot) (ctx : Context) : (bot.askGate ctx).Keeps fun s => (s.grounds, s.output) := by
  refine keeps_get.bind fun s => ?_
  cases Gate.check bot.config.developers s.stores ctx.command ctx.parent ctx.message with
  | error e => exact (State.keeps_count fun _ => rfl).bind fun _ => keeps_done _
  | ok u => exact keeps_done _

theorem askGate_keeps_grounds (bot : Bot) (ctx : Context) : (bot.askGate ctx).Keeps State.grounds :=
  (bot.askGate_keeps ctx).comp Prod.fst

theorem withArgs_keeps_grounds (c : Command) (ctx : Context) : (withArgs c ctx).Keeps State.grounds :=
  keeps_get.bind fun _ => keeps_done _

theorem failWith_keeps_grounds (bot : Bot) (ctx : Context) (e : CommandError) :
    (bot.failWith ctx e).Keeps State.grounds := by
  refine Keeps.bind ?_ fun _ => keeps_done _
  unfold tell
  refine (State.count_keeps_grounds _).bind fun _ => (State.countFor_keeps_grounds _).bind fun _ => ?_
  split
  · refine Keeps.bind (keeps_modify fun _ => rfl) fun _ => ?_
    exact (State.keeps_request fun _ => rfl).bind fun _ => keeps_done _
  split
  · exact keeps_done _
  · exact (State.keeps_request fun _ => rfl).bind fun _ => keeps_done _

end Bot

end ChatBot
