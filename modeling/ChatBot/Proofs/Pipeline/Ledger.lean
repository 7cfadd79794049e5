/-
  ChatBot.Proofs.Pipeline.Ledger — what each part of a run writes into the books.

  A ledger is any count that is taken from the books, with what each kind of entry adds to
  it. Whatever the ledger, a run adds to it only where an event is recorded, a counter of
  the operators goes up or an error is reported: for a denial (`askGate_adds`), for a
  command that reaches its checks (`runHandler_adds`) and for an error that is told
  (`tell_adds`). The rest of a run adds nothing.
-/
import ChatBot.Proofs.Pipeline.Frame

namespace ChatBot

open Steps

/-- A count over the books, and what each entry adds to it. -/
structure Ledger (τ : Type) [AddCommMonoid τ] where
  count : Metrics × Monitor → τ
  event : Metrics.Event → τ
  /-- What an operators' counter adds when it goes up. -/
  counter : String → τ
  report : ErrorReport → τ
  count_record : ∀ (s : State) e, count { s with metrics := s.metrics.record e }.books = count s.books + event e
  count_increment : ∀ (s : State) c, count { s with monitor := s.monitor.increment c }.books = count s.books + counter c
  count_report : ∀ (s : State) r, count { s with monitor := s.monitor.report r }.books = count s.books + report r

/-- What the operators are told of an error with which a command stopped. -/
def ErrorReport.ofStop (command : CommandInfo) (message : InboundMessage) (e : CommandError) : ErrorReport :=
  ⟨e.message, command.name, command.id.hex, message.author.id, message.guildId, message.content⟩

variable {τ α : Type} [AddCommMonoid τ] (ledger : Ledger τ) {t : τ}

namespace Ledger

def ofState (s : State) : τ := ledger.count s.books

/-- What a command adds when it reaches its checks. -/
def ofRun (command : String) : τ := ledger.event (.run command) + ledger.counter "command_runs"

/-- What an error adds that is told. -/
def ofError (ctx : Context) (e : CommandError) : τ :=
  ledger.event (.error e.isClientFacing) + ledger.counter "errors" +
    if e.isClientFacing then 0 else ledger.report (.ofStop ctx.command ctx.message e)

end Ledger

namespace State

theorem count_adds {event : Metrics.Event} {Q : τ → Unit → Prop} (h : Q (t + ledger.event event) ()) :
    (count event).Adds ledger.ofState Q t :=
  adds_modify (fun s => ledger.count_record s event) h

theorem countFor_adds {counter : String} {Q : τ → Unit → Prop} (h : Q (t + ledger.counter counter) ()) :
    (countFor counter).Adds ledger.ofState Q t :=
  adds_modify (fun s => ledger.count_increment s counter) h

theorem report_adds {r : ErrorReport} {Q : τ → Unit → Prop} (h : Q (t + ledger.report r) ()) :
    (report r).Adds ledger.ofState Q t :=
  adds_modify (fun s => ledger.count_report s r) h

theorem adds_of_keeps_books {x : Act α} {Q : τ → α → Prop} (hx : x.Keeps books) (h : ∀ a, Q t a) :
    x.Adds ledger.ofState Q t :=
  (hx.comp ledger.count).adds h

theorem request_adds {ask : Output → α × Output} {Q : τ → α → Prop} (h : ∀ a, Q t a) :
    (request ask).Adds ledger.ofState Q t :=
  adds_of_keeps_books ledger (keeps_request fun _ => rfl) h

end State

namespace Bot

variable (bot : Bot) (ctx : Context)

theorem setUp_adds (command : Command) {Q : τ → Option Nat → Prop} (h : ∀ reaction, Q t reaction) :
    (bot.setUp command ctx).Adds ledger.ofState Q t :=
  State.adds_of_keeps_books ledger ((setUp_keeps ..).comp Prod.fst) h

theorem askGate_adds {Q : τ → Except CommandError Unit → Prop} (hok : Q t (.ok ()))
    (herr : ∀ e, Q (t + ledger.event .gateDenial) (.error e)) : (bot.askGate ctx).Adds ledger.ofState Q t := by
  unfold askGate
  refine adds_bind.mpr (keeps_get.adds fun s => ?_)
  cases Gate.check bot.config.developers s.stores ctx.command ctx.parent ctx.message with
  | error e => exact adds_bind.mpr (State.count_adds ledger (herr e))
  | ok u => exact hok

theorem withArgs_adds (command : Command) {Q : τ → Context → Prop}
    (h : ∀ today, Q t (ctx.reading command today)) : (withArgs command ctx).Adds ledger.ofState Q t :=
  adds_bind.mpr (keeps_get.adds fun s => h s.today)

theorem call_adds (part : Handler.Part) (command : Command) {Q : τ → Except CommandError Unit → Prop}
    (h : ∀ r, Q t r) : (bot.call part command ctx).Adds ledger.ofState Q t := by
  refine adds_bind.mpr (adds_bind.mpr (State.adds_of_keeps_books ledger (Program.exec_keeps_books ..) fun r => ?_))
  exact h r

theorem runHandler_adds (command : Command) {Q : τ → Except CommandError Unit → Prop}
    (h : ∀ r, Q (t + ledger.ofRun command.name) r) : (bot.runHandler command ctx).Adds ledger.ofState Q t := by
  simp only [Ledger.ofRun, ← add_assoc] at h
  unfold runHandler
  refine adds_bind.mpr (State.count_adds ledger (adds_bind.mpr (State.countFor_adds ledger ?_)))
  split
  · exact h _
  · refine adds_bind.mpr (bot.call_adds ledger ctx .prerun command fun r => ?_)
    cases r with
    | error e => exact h _
    | ok u => exact bot.call_adds ledger ctx .run command h

/-- Everything is booked before the user is told, so it does not matter whether they can be. -/
theorem tell_adds (e : CommandError) {Q : τ → Except OutputError Unit → Prop}
    (h : ∀ told, Q (t + ledger.ofError ctx e) told) : (bot.tell ctx e).Adds ledger.ofState Q t := by
  simp only [Ledger.ofError, ← add_assoc] at h
  unfold tell
  refine adds_bind.mpr (State.count_adds ledger (adds_bind.mpr (State.countFor_adds ledger ?_)))
  cases hfacing : e.isClientFacing with
  | false =>
    simp only [hfacing, Bool.false_eq_true, if_false] at h
    exact adds_bind.mpr (State.report_adds ledger (adds_bind.mpr (State.request_adds ledger fun answer => h _)))
  | true =>
    simp only [hfacing, if_true, add_zero] at h
    simp only [Bool.not_true, Bool.false_eq_true, if_false]
    split
    · exact h _
    · exact adds_bind.mpr (State.request_adds ledger fun answer => h _)

theorem failWith_adds (e : CommandError) {Q : τ → Except OutputError Outcome → Prop}
    (h : ∀ told : Except OutputError Unit, Q (t + ledger.ofError ctx e) (told.map fun _ => .failed e)) :
    (bot.failWith ctx e).Adds ledger.ofState Q t :=
  adds_bind.mpr (bot.tell_adds ledger ctx e h)

theorem leave_adds (reaction : Option Nat) {result : Except OutputError Outcome}
    {Q : τ → Except OutputError Outcome → Prop} (h : Q t result) :
    (bot.leave ctx reaction result).Adds ledger.ofState Q t := by
  cases result with
  | error e => exact h
  | ok o =>
    exact adds_bind.mpr (State.adds_of_keeps_books ledger ((takeDown_keeps ctx bot reaction).comp Prod.fst) fun _ => h)

end Bot

end ChatBot
