/-
  ChatBot.Proofs.Pipeline.Reports — what is filed of an error.

  A run stops when the gate, the rules or the handler of a command answer with an error. The
  outcome does not always tell which: when the error itself cannot be told, the run has no
  outcome. So `executeNoting` is the run that also says why it stopped (`Halt`), and
  forgetting that it is `execute` (`snd_executeNoting`).

  Filed of a run is a report to the operators or none, and one of two counts. `handle_files`
  says which: an error whose class is `unknown` is reported, under the command that was at
  work, and counted as internal, unless it is silent. A silent one is counted with those
  that are meant for the user, and nobody is told of it.
-/
import Mathlib.Algebra.Group.Prod
import Mathlib.Algebra.GroupWithZero.Nat
import Mathlib.Algebra.Order.Group.Multiset
import ChatBot.Proofs.Pipeline.Delegation
import ChatBot.Proofs.Pipeline.Ledger

namespace ChatBot

open Steps

/-! ## Why a run stopped -/

/-- The command that was at work, and the error with which it stopped. -/
structure Halt where
  command : CommandInfo
  error : CommandError

namespace Halt

def ofResult (command : CommandInfo) : Except CommandError Unit → Option Halt
  | .error e => some ⟨command, e⟩
  | .ok () => none

/-- What the operators are told. -/
def report (h : Halt) (message : InboundMessage) : ErrorReport := .ofStop h.command message h.error

end Halt

namespace Bot

/-- `execute`, with the reason for which the run stopped. -/
def executeNoting (bot : Bot) (command : Command) (ctx : Context) : Act (Option Halt × Except OutputError Outcome) :=
  if !Gate.passesRollout bot.config.developers ctx.command ctx.message then do
    State.count .rolloutMiss
    return (none, .ok .rolledOut)
  else do
    let reaction ← bot.setUp command ctx
    match ← bot.askGate ctx with
    | .error e => (some ⟨ctx.command, e⟩, ·) <$> (bot.failWith ctx e >>= bot.leave ctx reaction)
    | .ok () => do
      let ctx ← withArgs command ctx
      match _h : command.delegateFor ctx.args with
      | none => do
        let result ← bot.runHandler command ctx
        (Halt.ofResult ctx.command result, ·) <$> (bot.conclude ctx result >>= bot.leave ctx reaction)
      | some d => do
        State.count .delegation
        let (halt, inner) ← executeNoting bot d.2 (ctx.forDelegate d.2.info)
        (halt, ·) <$> bot.leave ctx reaction (inner.map fun o => .delegated d.2.name o)
termination_by sizeOf command
decreasing_by exact Command.sizeOf_delegate (Command.delegateFor_mem _h)

/-- `handle`, with the reason for which the run stopped. -/
def handleNoting (bot : Bot) (message : InboundMessage) : Act (Option Halt × Except OutputError Outcome) :=
  match bot.invocationText message with
  | none => return (none, .ok .ignored)
  | some text => match bot.registry.resolve text with
    | .error e => (none, ·) <$> bot.announceUnknown message text e
    | .ok resolution => do
      State.count .received
      bot.executeNoting resolution.node.command (.ofResolution bot.config message resolution)

/-- What is said besides a result can be forgotten. -/
theorem snd_map_pair {α β : Type} (a : α) (x : Act β) : Prod.snd <$> ((a, ·) <$> x) = x := by
  rw [Functor.map_map]
  exact id_map x

theorem snd_executeNoting (bot : Bot) (command : Command) (ctx : Context) :
    Prod.snd <$> bot.executeNoting command ctx = bot.execute command ctx := by
  induction command using Command.delegation_induction generalizing ctx with
  | h command ih =>
    rw [executeNoting, execute]
    split
    · rw [map_bind]
      rfl
    rw [map_bind]
    refine bind_congr fun reaction => ?_
    rw [map_bind]
    refine bind_congr fun verdict => ?_
    cases verdict with
    | error e => exact snd_map_pair _ _
    | ok u =>
      rw [map_bind]
      refine bind_congr fun ctx' => ?_
      split
      · rename_i hd
        split
        · rename_i d hd'
          cases hd.symm.trans hd'
        · rw [map_bind]
          exact bind_congr fun result => snd_map_pair _ _
      · rename_i d hd
        split
        · rename_i d' hd'
          obtain rfl : d = d' := Option.some.inj (hd.symm.trans hd')
          rw [map_bind, ← ih d (Command.delegateFor_mem hd)]
          refine bind_congr fun _ => ?_
          rw [map_bind, bind_map_left]
          exact bind_congr fun noted => snd_map_pair _ _
        · rename_i hd'
          cases hd.symm.trans hd'

theorem snd_handleNoting (bot : Bot) (message : InboundMessage) :
    Prod.snd <$> bot.handleNoting message = bot.handle message := by
  unfold handleNoting handle
  cases bot.invocationText message with
  | none => rfl
  | some text =>
    dsimp only
    cases bot.registry.resolve text with
    | error e => exact snd_map_pair _ _
    | ok found =>
      rw [map_bind]
      exact bind_congr fun _ => bot.snd_executeNoting _ _

end Bot

/-! ## What is filed -/

/-- Reports to the operators, and the counts of errors meant for the user and of internal ones. -/
abbrev Filings := Multiset ErrorReport × Nat × Nat

def Filings.ofBooks (books : Metrics × Monitor) : Filings :=
  (books.2.reports, books.1.clientErrors, books.1.internalErrors)

def State.filings (s : State) : Filings := .ofBooks s.books

def Metrics.Event.filings : Metrics.Event → Filings
  | .error true => (0, 1, 0)
  | .error false => (0, 0, 1)
  | _ => 0

/-- An error is internal by its class, unless it is silent. -/
theorem CommandError.isClientFacing_eq_false {e : CommandError} :
    e.isClientFacing = false ↔ e.kind = .unknown ∧ e.isSilent = false := by
  cases e <;> simp [isClientFacing, kind, isSilent]

/-- What is due for an error: a report and a count of internal errors, or a count of the others. -/
def Halt.filings (h : Halt) (message : InboundMessage) : Filings :=
  if h.error.kind = .unknown ∧ h.error.isSilent = false then ({h.report message}, 0, 1) else (0, 1, 0)

namespace Filings

/-- Filings as a count that is taken from the books. -/
def ledger : Ledger Filings where
  count := ofBooks
  event := Metrics.Event.filings
  counter _ := 0
  report r := ({r}, 0, 0)
  count_record s event := by
    rcases event with _ | command | _ | _ | (_ | _) | _ | _ <;>
      simp [State.books, ofBooks, Metrics.record, Metrics.Event.filings]
  count_increment s c := (add_zero _).symm
  count_report s r := by simp [State.books, ofBooks, Monitor.report, ← Multiset.coe_add]

theorem ledger_ofRun (command : String) : ledger.ofRun command = 0 := add_zero _

theorem ledger_ofError (ctx : Context) (e : CommandError) :
    ledger.ofError ctx e = (Halt.mk ctx.command e).filings ctx.message := by
  simp only [Halt.filings, ← CommandError.isClientFacing_eq_false]
  cases hfacing : e.isClientFacing <;>
    simp [Ledger.ofError, hfacing, ledger, Metrics.Event.filings, Halt.report]

end Filings

/-- The name of the command that stopped with an error, and the error, when a command was called. -/
def Outcome.stopped (called : String) : Outcome → Option (String × CommandError)
  | .failed e => some (called, e)
  | .delegated target inner => inner.stopped target
  | _ => none

/-- What is due was filed, and the outcome, if there is one, tells the same error. -/
structure Halt.Accounts (message : InboundMessage) (called : String) (filed : Filings)
    (noted : Option Halt × Except OutputError Outcome) : Prop where
  filed : filed = (noted.1.map fun h => h.filings message).getD 0
  told : ∀ o, noted.2 = .ok o → o.stopped called = noted.1.map fun h => (h.command.name, h.error)

/-- A command that hands over tells what its target tells. -/
theorem Halt.Accounts.delegated {message : InboundMessage} {target called : String} {filed : Filings}
    {noted : Option Halt × Except OutputError Outcome} (h : Accounts message target filed noted) :
    Accounts message called filed (noted.1, noted.2.map (.delegated target)) := by
  refine ⟨h.filed, fun o ho => ?_⟩
  obtain ⟨halt, result⟩ := noted
  cases result with
  | error e => cases ho
  | ok inner =>
    obtain rfl : Outcome.delegated target inner = o := Except.ok.inj ho
    exact h.told inner rfl

namespace Bot

section Filing

variable (bot : Bot)

/-- An error that ends a run is accounted for, whether it can be told or not. -/
theorem failWith_leave_accounts (ctx : Context) (reaction : Option Nat) (e : CommandError) :
    (bot.failWith ctx e >>= bot.leave ctx reaction).Adds Filings.ledger.ofState
      (fun u r => Halt.Accounts ctx.message ctx.command.name u (some ⟨ctx.command, e⟩, r)) 0 := by
  refine adds_bind.mpr (bot.failWith_adds _ ctx e fun told => bot.leave_adds _ ctx reaction ?_)
  rw [Filings.ledger_ofError, zero_add]
  refine ⟨rfl, fun o ho => ?_⟩
  cases told with
  | error why => cases ho
  | ok u =>
    obtain rfl : Outcome.failed e = o := Except.ok.inj ho
    rfl

theorem executeNoting_accounts (command : Command) (ctx : Context) :
    (bot.executeNoting command ctx).Adds Filings.ledger.ofState (Halt.Accounts ctx.message ctx.command.name) 0 := by
  induction command using Command.delegation_induction generalizing ctx with
  | h command ih =>
    rw [executeNoting]
    split
    · refine adds_bind.mpr (State.count_adds _ ⟨rfl, fun o ho => ?_⟩)
      obtain rfl : Outcome.rolledOut = o := Except.ok.inj ho
      rfl
    refine adds_bind.mpr (bot.setUp_adds _ ctx command fun reaction => ?_)
    have hdenied : ∀ e, ((some ⟨ctx.command, e⟩, ·) <$> (bot.failWith ctx e >>= bot.leave ctx reaction)).Adds
        Filings.ledger.ofState (Halt.Accounts ctx.message ctx.command.name) 0 :=
      fun e => adds_map.mpr (bot.failWith_leave_accounts ctx reaction e)
    refine adds_bind.mpr (bot.askGate_adds _ ctx ?_ hdenied)
    refine adds_bind.mpr (withArgs_adds _ ctx command fun today => ?_)
    split
    · refine adds_bind.mpr (bot.runHandler_adds _ _ command fun r => ?_)
      rw [Filings.ledger_ofRun, zero_add]
      cases r with
      | error e => exact adds_map.mpr (bot.failWith_leave_accounts _ reaction e)
      | ok u =>
        refine adds_map.mpr (adds_bind.mpr (bot.leave_adds _ _ reaction ⟨rfl, fun o ho => ?_⟩))
        obtain rfl : Outcome.completed = o := Except.ok.inj ho
        rfl
    · rename_i d hd
      refine adds_bind.mpr (State.count_adds _ (adds_bind.mpr ?_))
      refine (ih d (Command.delegateFor_mem hd) _).mono fun u noted hnoted => ?_
      exact adds_map.mpr (bot.leave_adds _ _ reaction hnoted.delegated)

/-! ## Messages -/

theorem handleNoting_accounts (message : InboundMessage) : (bot.handleNoting message).Adds Filings.ledger.ofState
    (fun u noted => u = (noted.1.map fun h => h.filings message).getD 0 ∧
      ∀ found, bot.Calling message found → ∀ o, noted.2 = .ok o →
        o.stopped found.node.command.name = noted.1.map fun h => (h.command.name, h.error)) 0 := by
  by_cases hc : ∃ found, bot.Calling message found
  · obtain ⟨found, hfound⟩ := hc
    obtain ⟨text, htext, hresolve⟩ := id hfound
    simp only [handleNoting, htext, hresolve]
    refine adds_bind.mpr (State.count_adds _ ?_)
    refine (bot.executeNoting_accounts _ _).mono fun u noted hnoted => ⟨hnoted.filed, fun found' hfound' => ?_⟩
    obtain rfl := hfound.unique hfound'
    exact hnoted.told
  · have hnobody := not_exists.mp hc
    unfold handleNoting
    split
    · exact ⟨rfl, fun found hfound => absurd hfound (hnobody found)⟩
    rename_i text htext
    split
    · refine adds_map.mpr (State.adds_of_keeps_books _ (bot.announceUnknown_keeps_books ..) fun _ => ?_)
      exact ⟨rfl, fun found hfound => absurd hfound (hnobody found)⟩
    · rename_i found hresolve
      exact absurd ⟨text, htext, hresolve⟩ (hnobody found)

/-- What a bot itself files for a message, why the run stopped and how it ended, when others
    change the state before each of its steps. -/
def filing (bot : Bot) (message : InboundMessage) (others : Nat → State → State) (s : State) :
    Filings × Option Halt × Except OutputError Outcome :=
  (bot.handleNoting message).watch (.sum State.filings) others 0 0 s

/-- The reason is only looked at: what is filed and how the run ends is what `handle` makes of them. -/
theorem filing_handle (message : InboundMessage) (others : Nat → State → State) (s : State) :
    (bot.handle message).watch (.sum State.filings) others 0 0 s =
      ((bot.filing message others s).1, (bot.filing message others s).2.2) := by
  rw [← snd_handleNoting, watch_map]
  rfl

/-- Whatever others do meanwhile, and whether an error can be told or not: a run that does
    not stop files nothing, and one that stops files what is due. That is one report, under
    the command that was at work, and one internal error, when the class of the error is
    `unknown` and it is not silent; else it is one error that is meant for the user, and no
    report. An outcome tells the command and the error for which the run stopped. -/
theorem handle_files (message : InboundMessage) (others : Nat → State → State) (s : State) :
    let filed := (bot.filing message others s).1
    let halt := (bot.filing message others s).2.1
    let result := (bot.filing message others s).2.2
    (bot.handle message).watch (.sum State.filings) others 0 0 s = (filed, result) ∧
      (halt = none → filed = 0) ∧
      (∀ h, halt = some h → filed = if h.error.kind = .unknown ∧ h.error.isSilent = false then
        ({h.report message}, 0, 1) else (0, 1, 0)) ∧
      ∀ found, bot.Calling message found → ∀ o, result = .ok o →
        o.stopped found.node.command.name = halt.map fun h => (h.command.name, h.error) := by
  intro filed halt result
  have hsub : ∀ a d : Filings, a + d - a = d := fun a d =>
    Prod.ext (add_tsub_cancel_left ..) (Prod.ext (Nat.add_sub_cancel_left ..) (Nat.add_sub_cancel_left ..))
  obtain ⟨hfiled, htold⟩ := (bot.handleNoting_accounts message).watch hsub others 0 s
  change filed = (halt.map fun h => h.filings message).getD 0 at hfiled
  refine ⟨bot.filing_handle message others s, fun hnone => ?_, fun h hsome => ?_, htold⟩
  · rw [hfiled, hnone]
    rfl
  · rw [hfiled, hsome]
    rfl

end Filing

/-! ### A failure that is silenced -/

namespace Outage

def pong (e : CommandError) : Command := .simple (.make "pong" "pong") (.ofRun fun _ => .fail e)

/-- `pong` runs in its place. -/
def ping (e : CommandError) : Command :=
  { pong e with info := .make "ping" "ping", delegates := [(fun _ => true, pong e)] }

def bot (e : CommandError) : Bot := ⟨⟨[.leaf (ping e)], .empty, []⟩, Config.standard, []⟩

def message : InboundMessage := ⟨"m", "!ping", ⟨"1", "joe", none, false⟩, none, "c", [], none, []⟩

/-- The chat takes no messages. -/
def start : State :=
  { State.initial .empty 0 with output := Output.empty.setRefusal .send (some "closed") }

def dbDown : CommandError := .unknown "db"

/-- What is filed, why the run stopped and how it ended, with nobody else at work. -/
def observed (e : CommandError) : Filings × Option Halt × Except OutputError Outcome :=
  (bot e).filing message (fun _ s => s) start

/-- The target stops, and this cannot be told. -/
theorem halted : (observed dbDown).2.1.map (fun h => (h.command.name, h.error)) = some ("pong", dbDown) ∧
    ((observed dbDown).2.2).isOk = false := by
  with_unfolding_all decide

theorem halted_silenced :
    (observed dbDown.silenced).2.1.map (fun h => (h.command.name, h.error)) = some ("pong", dbDown.silenced) := by
  with_unfolding_all decide

end Outage

open Outage in
/-- The failure of a target is reported under its name, although the user cannot be told. When
    it is silenced it is counted as an error that is meant for the user. -/
theorem handle_files_outage :
    (∃ r : ErrorReport, (observed dbDown).1 = ({r}, 0, 1) ∧ r.command = "pong" ∧ r.error = "internal error: db") ∧
      ((observed dbDown).2.2).isOk = false ∧ (observed dbDown.silenced).1 = (0, 1, 0) := by
  obtain ⟨-, -, hreported, -⟩ := (bot dbDown).handle_files message (fun _ s => s) start
  obtain ⟨-, -, hsilenced, -⟩ := (bot dbDown.silenced).handle_files message (fun _ s => s) start
  obtain ⟨h, hh, hname⟩ := Option.map_eq_some_iff.mp halted.1
  obtain ⟨h', hh', hname'⟩ := Option.map_eq_some_iff.mp halted_silenced
  obtain ⟨hcommand, herror⟩ := Prod.mk.inj hname
  obtain ⟨-, herror'⟩ := Prod.mk.inj hname'
  refine ⟨⟨h.report message, ?_, hcommand, ?_⟩, halted.2, ?_⟩
  · exact (hreported h hh).trans (if_pos (by rw [herror]; decide))
  · show h.error.message = _
    rw [herror]
    decide
  · exact (hsilenced h' hh').trans (if_neg (by rw [herror']; decide))

open Outage in
/-- So the class of an error does not decide whether it is reported. -/
theorem not_handle_reports_unknown : ¬ ∀ (bot : Bot) (message : InboundMessage) (others : Nat → State → State)
    (s : State) (h : Halt), (bot.filing message others s).2.1 = some h → h.error.kind = .unknown →
      (bot.filing message others s).1 = ({h.report message}, 0, 1) := by
  intro hclaim
  obtain ⟨h, hh, hname⟩ := Option.map_eq_some_iff.mp halted_silenced
  obtain ⟨-, herror⟩ := Prod.mk.inj hname
  have hfiled := hclaim (bot dbDown.silenced) message (fun _ s => s) start h hh (by rw [herror]; decide)
  have hcounted : (observed dbDown.silenced).1.2 = (1, 0) := by with_unfolding_all decide
  have hcounts : ((1, 0) : Nat × Nat) = (0, 1) := hcounted.symm.trans (congrArg Prod.snd hfiled)
  exact absurd hcounts (by decide)

end Bot

end ChatBot
