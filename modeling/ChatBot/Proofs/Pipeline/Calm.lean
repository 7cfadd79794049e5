/-
  ChatBot.Proofs.Pipeline.Calm — runs while every service answers and the chat takes everything.

  Nobody but those outside makes a service fail or the chat refuse (`State.Calm`). Then the
  gate and the resolver fail only for what the user did, and a run has an internal error only
  if a program makes one up. Programs that do not are tame, whatever they are answered; a
  command is tame when the programs of its handler are, with the arguments that its rules
  accept, and so is every command that it hands over to.

  `handle_within`: a bot of tame commands that starts in a calm state stays in calm states. It
  tells whatever goes wrong to the user, and reports nothing to the operators.
-/
import ChatBot.Proofs.Pipeline.Frame
import ChatBot.Proofs.Pipeline.Reports
import ChatBot.Proofs.Registry.Atomic

namespace ChatBot

open Steps
open CommandError (orFail)

variable {α β : Type}

/-! ## Errors that a user can be told -/

/-- It fails, if it does, with an error that is not internal. -/
def Foreseen (x : Except CommandError α) : Prop := ∀ e, x = .error e → e.kind ≠ .unknown

theorem foreseen_ok (a : α) : Foreseen (.ok a : Except CommandError α) := nofun

theorem foreseen_error {e : CommandError} : Foreseen (.error e : Except CommandError α) ↔ e.kind ≠ .unknown :=
  ⟨fun h => h e rfl, fun h _ he => Except.error.inj he ▸ h⟩

theorem Foreseen.bind {x : Except CommandError α} {k : α → Except CommandError β} (hx : Foreseen x)
    (hk : ∀ a, x = .ok a → Foreseen (k a)) : Foreseen (x >>= k) := by
  intro e he
  rcases bind_eq_error.mp he with hfails | ⟨a, ha, hfails⟩
  · exact hx e hfails
  · exact hk a ha e hfails

theorem CommandError.isClientFacing_of_kind {e : CommandError} (h : e.kind ≠ .unknown) : e.isClientFacing = true := by
  cases e <;> first | rfl | exact absurd rfl h

namespace Stores

/-- Every call is answered. -/
def Steady (s : Stores) : Prop := ∀ call, s.outages call = none

variable {s : Stores}

theorem Steady.ask (h : s.Steady) (call : ServiceCall) (answer : α) : s.ask call answer = .ok answer :=
  ask_eq_ok.mpr ⟨h call, rfl⟩

theorem Steady.user (h : s.Steady) (id : String) : s.user id = .ok (s.identities.user? id) := h.ask _ _

theorem Steady.findMember (h : s.Steady) (guild name : String) : Foreseen (orFail (s.findMember guild name)) := by
  unfold Stores.findMember
  split
  · rw [h.ask]
    exact foreseen_ok _
  · exact foreseen_ok _

end Stores

/-! ### The gate -/

namespace Gate

variable {stores : Stores} {guild : String} {message : InboundMessage}

theorem checkEach_foreseen {check : CommandInfo → Except CommandError Unit} (h : ∀ c, Foreseen (check c))
    (chain : List CommandInfo) : Foreseen (checkEach check chain) := by
  induction chain with
  | nil => exact foreseen_ok ()
  | cons c chain ih => exact (h c).bind fun _ _ => ih

theorem checkEnabled_foreseen (h : stores.Steady) (c : CommandInfo) : Foreseen (checkEnabled stores guild c) := by
  unfold checkEnabled Stores.disabledStatus
  rw [h.ask]
  refine (foreseen_ok _).bind fun status _ => ?_
  split
  · exact foreseen_ok ()
  · split <;> exact foreseen_error.mpr (by decide)

theorem checkAllowed_foreseen (h : stores.Steady) (c : CommandInfo) :
    Foreseen (checkAllowed stores guild message c) := by
  unfold checkAllowed Stores.channels Stores.permissions
  rw [h.ask, h.ask]
  refine (foreseen_ok _).bind fun channels _ => ?_
  split
  · exact foreseen_error.mpr (by decide)
  refine (foreseen_ok _).bind fun records _ => ?_
  unfold checkPermissions
  split
  · exact foreseen_error.mpr (by decide)
  · dsimp only
    split
    · exact foreseen_error.mpr (by decide)
    · exact foreseen_ok ()

theorem check_foreseen (h : stores.Steady) (developers : List String) (c : CommandInfo)
    (parent : Option CommandInfo) : Foreseen (check developers stores c parent message) := by
  unfold check
  dsimp only
  split
  · exact foreseen_error.mpr (by decide)
  split
  · exact foreseen_ok ()
  refine (checkEach_foreseen (checkEnabled_foreseen h) _).bind fun _ _ => ?_
  split
  · exact foreseen_ok ()
  · exact checkEach_foreseen (checkAllowed_foreseen h) _

end Gate

/-! ### The resolver -/

namespace Resolver

variable {stores : Stores} {args : ParsedArgs} {message : InboundMessage} {options : ResolverOptions}

theorem platformIdFrom_foreseen (h : stores.Steady) (r : Resolver) :
    Foreseen (r.platformIdFrom stores args message options) := by
  unfold platformIdFrom
  split
  · exact foreseen_ok _
  split
  · exact foreseen_ok _
  split
  · refine (h.findMember _ _).bind fun member _ => ?_
    split
    · exact foreseen_ok _
    · exact foreseen_error.mpr (by simp [CommandError.kind])
  · exact foreseen_ok _

theorem remoteTarget_foreseen (h : stores.Steady) (r : Resolver) (name : String) :
    Foreseen (r.remoteTarget stores name options) := by
  have howner : Foreseen (ownerOf stores name options) := by
    unfold ownerOf Stores.userByUsername
    rw [h.ask]
    split <;> exact foreseen_ok _
  refine howner.bind fun identity _ => ?_
  split
  · exact foreseen_error.mpr (by simp [CommandError.kind])
  · exact foreseen_ok _

theorem platformTarget_foreseen (h : stores.Steady) (id : String) : Foreseen (platformTarget stores id options) := by
  unfold platformTarget
  rw [h.user]
  refine (foreseen_ok _).bind fun identity _ => ?_
  dsimp only
  split
  · exact foreseen_error.mpr (by decide)
  · exact foreseen_ok _

theorem mentioned_foreseen (h : stores.Steady) (r : Resolver) :
    Foreseen (r.mentioned stores args message options) := by
  unfold mentioned
  split
  · exact remoteTarget_foreseen h r _
  refine (platformIdFrom_foreseen h r).bind fun id _ => ?_
  split
  · exact platformTarget_foreseen h _
  split
  · exact remoteTarget_foreseen h r _
  · exact foreseen_ok _

/-- When every call is answered, nobody is told of a failure but for what they asked. -/
theorem resolve_foreseen (h : stores.Steady) (r : Resolver) : Foreseen (r.resolve stores args message options) := by
  unfold resolve
  rw [h.user]
  refine (foreseen_ok _).bind fun sender _ => (mentioned_foreseen h r).bind fun target _ => ?_
  split
  · exact foreseen_error.mpr (by simp [CommandError.kind])
  · exact foreseen_ok _

end Resolver

/-! ## Calm states -/

/-- Commands were switched off by admins, and nothing else was decided. -/
structure GateRecords.Switched (g : GateRecords) : Prop where
  disabled : ∀ e ∈ g.disabled.entries, e.2 = ⟨true, false⟩
  permissions : g.permissions = []
  channels : g.channels = .empty

namespace GateRecords.Switched

variable {g : GateRecords}

theorem disable (h : g.Switched) (guild command : String) : (g.disable guild command false).Switched := by
  refine ⟨fun e he => ?_, h.permissions, h.channels⟩
  rcases Dict.mem_put he with rfl | he
  · rfl
  · exact h.disabled e he

theorem enable (h : g.Switched) (guild command : String) : (g.enable guild command).2.Switched :=
  ⟨fun e he => h.disabled e (List.mem_filter.mp he).1, h.permissions, h.channels⟩

theorem eq_of_get? (h : g.Switched) {key : String × String} {status : DisabledStatus}
    (hget : g.disabled.get? key = some status) : status = ⟨true, false⟩ := by
  obtain ⟨e, he, rfl⟩ := List.mem_map.mp (Dict.mem_values_of_get? hget)
  exact h.disabled e he

end GateRecords.Switched

namespace State

/-- What a failure from outside would show in. -/
def outlook (s : State) : (ServiceCall → Option ServiceError) × (OutputCall → Option String) × GateRecords × Nat ×
    List ErrorReport :=
  (s.stores.outages, s.output.refusals, s.stores.gates, s.metrics.internalErrors, s.monitor.reports)

/-- Every service answers, the chat takes everything, and nothing internal has gone wrong. -/
structure Calm (s : State) : Prop where
  steady : s.stores.Steady
  takes : ∀ call, s.output.refusals call = none
  internalErrors : s.metrics.internalErrors = 0
  reports : s.monitor.reports = []
  gates : s.stores.gates.Switched

theorem Calm.of_outlook {s s' : State} (h : s'.outlook = s.outlook) (hs : s.Calm) : s'.Calm := by
  simp only [outlook, Prod.mk.injEq] at h
  obtain ⟨houtages, hrefusals, hgates, hinternal, hreports⟩ := h
  refine ⟨fun call => ?_, fun call => ?_, hinternal.trans hs.internalErrors, hreports.trans hs.reports,
    hgates ▸ hs.gates⟩
  · rw [houtages]
    exact hs.steady call
  · rw [hrefusals]
    exact hs.takes call

/-- Whatever the clock says. -/
theorem Calm.at {s : State} (h : s.Calm) (now : Instant) : { s with today := now }.Calm :=
  ⟨h.steady, h.takes, h.internalErrors, h.reports, h.gates⟩

/-- Admins may decide. -/
theorem Calm.mapGates {s : State} (h : s.Calm) (f : GateRecords → GateRecords) (hf : (f s.stores.gates).Switched) :
    (s.mapGates f).Calm :=
  ⟨h.steady, h.takes, h.internalErrors, h.reports, hf⟩

end State

theorem Steps.Keeps.outlook {x : Act α} (h : x.Keeps fun s => (s.books, s.output.refusals, s.standing)) :
    x.Keeps State.outlook :=
  h.comp fun k => (k.2.2.1, k.2.1, k.2.2.2, k.1.1.internalErrors, k.1.2.reports)

theorem Steps.Keeps.calm {x : Act α} {Q : α → Prop} (h : x.Keeps State.outlook) (hQ : ∀ a, Q a) :
    x.Within State.Calm Q :=
  h.within (fun _ _ heq hs => hs.of_outlook heq) hQ

/-! ### What leaves them calm -/

namespace State

theorem request_keeps_outlook {ask : Output → α × Output} (h : ∀ o, (ask o).2.refusals = o.refusals) :
    (request ask).Keeps outlook :=
  keeps_request fun s => by simp only [outlook, h]

theorem count_keeps_outlook {event : Metrics.Event} (h : event ≠ .error false) : (count event).Keeps outlook :=
  keeps_count fun s => by
    have hinternal : (s.metrics.record event).internalErrors = s.metrics.internalErrors := by
      cases event with
      | error clientFacing => cases clientFacing <;> first | rfl | exact absurd rfl h
      | _ => rfl
    simp only [outlook, hinternal]

theorem countFor_keeps_outlook (counter : String) : (countFor counter).Keeps outlook := keeps_modify fun _ => rfl

theorem settle_keeps_outlook : settle.Keeps outlook :=
  (settle_keeps.comp fun k => (k.1, k.2.1.refusals, k.2.2.2.2)).outlook

theorem advance_keeps_outlook (milliseconds : Nat) : (advance milliseconds).Keeps outlook :=
  (advance_keeps milliseconds).outlook

/-- A chat that takes everything delivers. -/
theorem send_within {channel : String} {message : OutgoingMessage} {Q : Except OutputError SentMessage → Prop}
    (h : ∀ sent, Q (.ok sent)) : (send channel message).Within Calm Q := by
  refine within_modifyGet fun s hs => ⟨?_, ?_⟩
  · exact hs.of_outlook (by simp only [outlook, Output.send_refusals])
  · have hsent : (s.output.send channel message).1 = .ok ⟨"sent-" ++ toString (s.output.delivered + 1), channel⟩ := by
      rw [Output.send, hs.takes]
    exact hsent ▸ h _

theorem startTyping_within {channel : String} {Q : Except OutputError Unit → Prop} (h : Q (.ok ())) :
    (startTyping channel).Within Calm Q := by
  refine within_modifyGet fun s hs => ⟨?_, ?_⟩
  · exact hs.of_outlook (by simp only [outlook, Output.startTyping, Output.present_refusals])
  · have htyping : (s.output.startTyping channel).1 = .ok () := by
      rw [Output.startTyping, Output.present, hs.takes]
    exact htyping ▸ h

/-- What is read of a calm state. -/
theorem get_within {Q : State → Prop} (h : ∀ s, s.Calm → Q s) : (get : Act State).Within Calm Q :=
  fun s hs => ⟨hs, h s hs⟩

end State

/-! ## Tame programs -/

/-- Whatever the program is answered, as long as the services answer and the chat takes its messages: it fails
    with no internal error, and disables as an admin does. -/
inductive Program.Tame : Program → Prop
  | done : Tame .done
  | fail {e : CommandError} : e.kind ≠ .unknown → Tame (.fail e)
  | send {channel : String} {message : OutgoingMessage} {next : Except OutputError SentMessage → Program} :
    (∀ sent, Tame (next (.ok sent))) → Tame (.send channel message next)
  | startTyping {channel : String} {next : Except OutputError Unit → Program} :
    Tame (next (.ok ())) → Tame (.startTyping channel next)
  | resolve {options : ResolverOptions} {next : Except CommandError ResolvedMentions → Program} :
    (∀ answer, Foreseen answer → Tame (next answer)) → Tame (.resolve options next)
  | sleep {milliseconds : Nat} {next : Program} : Tame next → Tame (.sleep milliseconds next)
  | lookup {name : String} {next : Option CommandInfo → Program} :
    (∀ found, Tame (next found)) → Tame (.lookup name next)
  | keepIdentity {identity : LocalIdentity} {next : Program} : Tame next → Tame (.keepIdentity identity next)
  | disable {guild command : String} {next : Program} : Tame next → Tame (.disable guild command false next)
  | enable {guild command : String} {next : Bool → Program} :
    (∀ was, Tame (next was)) → Tame (.enable guild command next)
  | note {entry : Note} {next : Program} : Tame next → Tame (.note entry next)

namespace Program

theorem tame_say (ctx : Context) (text : String) : (say ctx text).Tame := .send fun _ => .done

theorem tame_withMentions {options : ResolverOptions} {next : ResolvedMentions → Program} (h : ∀ m, (next m).Tame) :
    (withMentions options next).Tame := by
  refine .resolve fun answer hanswer => ?_
  cases answer with
  | ok m => exact h m
  | error e => exact .fail (foreseen_error.mp hanswer)

theorem exec_within (bot : Bot) (ctx : Context) {p : Program} (h : p.Tame) :
    (p.exec bot ctx).Within State.Calm Foreseen := by
  induction h with
  | done => exact within_done (foreseen_ok ())
  | fail he => exact within_done (foreseen_error.mpr he)
  | send _ ih => exact within_bind.mpr (State.send_within ih)
  | startTyping _ ih => exact within_bind.mpr (State.startTyping_within ih)
  | resolve _ ih =>
    refine within_bind.mpr (State.get_within fun s hs => ih _ ?_)
    exact Resolver.resolve_foreseen hs.steady _
  | sleep _ ih => exact within_bind.mpr ((State.advance_keeps_outlook _).calm fun _ => ih)
  | lookup _ ih => exact ih _
  | keepIdentity _ ih => exact within_bind.mpr (Keeps.calm (keeps_modify fun _ => rfl) fun _ => ih)
  | disable _ ih =>
    refine within_bind.mpr (within_modifyGet fun s hs => ⟨?_, ih⟩)
    exact hs.mapGates (·.disable _ _ false) (hs.gates.disable _ _)
  | enable _ ih =>
    refine within_bind.mpr (within_modifyGet fun s hs => ⟨?_, ih _⟩)
    exact hs.mapGates (fun g => (g.enable _ _).2) (hs.gates.enable _ _)
  | note _ ih => exact within_bind.mpr (Keeps.calm (keeps_modify fun _ => rfl) fun _ => ih)

end Program

/-- The programs of the command are tame with the arguments that its rules accept, and the commands that run in
    its place are tame. -/
inductive Command.Tame : Command → Prop
  | intro {c : Command}
    (programs : ∀ (ctx : Context) (today : Instant),
      ValidationRule.checkAll c.rules (ctx.reading c today).args = .ok () →
        ∀ part, (c.handler.program part (ctx.reading c today)).Tame)
    (delegates : ∀ d ∈ c.delegates, d.2.Tame) : c.Tame

/-! ## Runs -/

/-- The error with which a message ended, if one did. -/
def Outcome.error? : Outcome → Option CommandError
  | .failed e => some e
  | .delegated _ inner => inner.error?
  | _ => none

/-- There is an outcome, and no internal error in it. -/
def Settled (result : Except OutputError Outcome) : Prop :=
  ∃ o, result = .ok o ∧ ∀ e, o.error? = some e → e.kind ≠ .unknown

theorem settled_of_no_error {o : Outcome} (h : o.error? = none) : Settled (.ok o) := by
  refine ⟨o, rfl, fun e he => ?_⟩
  rw [h] at he
  cases he

theorem settled_failed {e : CommandError} (h : e.kind ≠ .unknown) : Settled (.ok (.failed e)) := by
  refine ⟨_, rfl, fun e' he => ?_⟩
  cases he
  exact h

theorem ValidationRule.checkAll_foreseen (rules : List ValidationRule) (args : ParsedArgs) :
    Foreseen (checkAll rules args) := by
  induction rules with
  | nil => exact foreseen_ok ()
  | cons rule rules ih =>
    rw [checkAll, check]
    cases rule.validator.violation (args.get? rule.argument) with
    | none => exact ih
    | some constraint => exact foreseen_error.mpr (by simp [CommandError.kind])

namespace Bot

variable (bot : Bot) (ctx : Context)

theorem setUp_keeps_outlook (command : Command) : (bot.setUp command ctx).Keeps State.outlook :=
  ((bot.setUp_keeps command ctx).comp fun k => (k.1, k.2.2, k.2.1.1.outages, k.2.1.1.gates)).outlook

theorem takeDown_keeps_outlook (reaction : Option Nat) : (takeDown ctx bot reaction).Keeps State.outlook :=
  ((takeDown_keeps ctx bot reaction).comp fun k => (k.1, k.2.1.2, k.2.2)).outlook

theorem leave_within (reaction : Option Nat) {o : Outcome} {Q : Except OutputError Outcome → Prop} (h : Q (.ok o)) :
    (bot.leave ctx reaction (.ok o)).Within State.Calm Q :=
  within_bind.mpr ((bot.takeDown_keeps_outlook ctx reaction).calm fun _ => within_done h)

theorem askGate_within : (bot.askGate ctx).Within State.Calm Foreseen := by
  refine within_bind.mpr (State.get_within fun s hs => ?_)
  have hverdict : Foreseen (Gate.check bot.config.developers s.stores ctx.command ctx.parent ctx.message) :=
    Gate.check_foreseen hs.steady _ _ _
  cases hcheck : Gate.check bot.config.developers s.stores ctx.command ctx.parent ctx.message with
  | ok _ => exact within_done (foreseen_ok ())
  | error e =>
    refine within_bind.mpr ((State.count_keeps_outlook (by decide)).calm fun _ => within_done ?_)
    exact hcheck ▸ hverdict

theorem call_within {part : Handler.Part} {command : Command} (h : (command.handler.program part ctx).Tame) :
    (bot.call part command ctx).Within State.Calm Foreseen := by
  refine within_bind.mpr (within_tell _ (within_bind.mpr ((Program.exec_within bot ctx h).mono fun result hr => ?_)))
  exact within_bind.mpr (within_tell _ (within_done hr))

theorem runHandler_within {command : Command}
    (h : ValidationRule.checkAll command.rules ctx.args = .ok () → ∀ part, (command.handler.program part ctx).Tame) :
    (bot.runHandler command ctx).Within State.Calm Foreseen := by
  unfold runHandler
  refine within_bind.mpr ((State.count_keeps_outlook (by simp)).calm fun _ => ?_)
  refine within_bind.mpr ((State.countFor_keeps_outlook _).calm fun _ => ?_)
  cases hcheck : ValidationRule.checkAll command.rules ctx.args with
  | error e => exact within_done (hcheck ▸ ValidationRule.checkAll_foreseen command.rules ctx.args)
  | ok _ =>
    refine within_bind.mpr ((bot.call_within ctx (h hcheck .prerun)).mono fun result hr => ?_)
    cases result with
    | error e => exact within_done hr
    | ok _ => exact bot.call_within ctx (h hcheck .run)

/-- An error that is not internal is told to the user, if to anybody. -/
theorem failWith_within {e : CommandError} (h : e.kind ≠ .unknown) {Q : Except OutputError Outcome → Prop}
    (hQ : Q (.ok (.failed e))) : (bot.failWith ctx e).Within State.Calm Q := by
  unfold failWith tell
  rw [CommandError.isClientFacing_of_kind h]
  refine within_bind.mpr (within_bind.mpr ((State.count_keeps_outlook (by decide)).calm fun _ => ?_))
  refine within_bind.mpr ((State.countFor_keeps_outlook _).calm fun _ => ?_)
  rw [if_neg (by simp)]
  split
  · exact within_done (within_done hQ)
  · exact within_bind.mpr (State.send_within fun _ => within_done (within_done hQ))

theorem execute_within {command : Command} (h : command.Tame) (ctx : Context) :
    (bot.execute command ctx).Within State.Calm Settled := by
  -- on the command: whatever it hands over to is tame as well, and called with other arguments
  induction h generalizing ctx with
  | @intro command programs delegates ih =>
    rw [execute]
    split
    · exact within_bind.mpr ((State.count_keeps_outlook (by decide)).calm fun _ =>
        within_done (settled_of_no_error rfl))
    refine within_bind.mpr ((bot.setUp_keeps_outlook ctx command).calm fun reaction => ?_)
    refine within_bind.mpr ((bot.askGate_within ctx).mono fun verdict hverdict => ?_)
    have hfailed : ∀ ctx : Context, ∀ e : CommandError, e.kind ≠ .unknown →
        (bot.failWith ctx e >>= bot.leave ctx reaction).Within State.Calm Settled := by
      intro ctx e he
      exact within_bind.mpr (bot.failWith_within ctx he (bot.leave_within ctx reaction (settled_failed he)))
    cases verdict with
    | error e => exact hfailed ctx e (foreseen_error.mp hverdict)
    | ok _ =>
      refine within_bind.mpr (within_bind.mpr (State.get_within fun s _ => within_done ?_))
      split
      · rename_i d hd
        refine within_bind.mpr ((State.count_keeps_outlook (by decide)).calm fun _ => within_bind.mpr ?_)
        refine (ih d (Command.delegateFor_mem hd) _).mono fun inner hinner => ?_
        obtain ⟨o, rfl, ho⟩ := hinner
        exact bot.leave_within _ reaction ⟨_, rfl, ho⟩
      · refine within_bind.mpr ((bot.runHandler_within _ (programs ctx s.today)).mono fun result hr => ?_)
        cases result with
        | error e => exact hfailed _ e (foreseen_error.mp hr)
        | ok _ => exact within_bind.mpr (within_done (bot.leave_within _ reaction (settled_of_no_error rfl)))

/-- All commands are tame, those that are only called under others too. -/
def Tame : Prop := ∀ node ∈ bot.registry.entries, node.command.Tame

/-- A message leaves a bot of tame commands in a calm state, and ends without an internal error. -/
theorem handle_within {bot : Bot} (h : bot.Tame) (message : InboundMessage) :
    (bot.handle message).Within State.Calm Settled := by
  unfold handle
  split
  · exact within_done (settled_of_no_error rfl)
  split
  · unfold announceUnknown
    split
    · exact within_bind.mpr (State.send_within fun _ => within_done (settled_of_no_error rfl))
    · exact within_done (settled_of_no_error rfl)
  · rename_i found hfound
    refine within_bind.mpr ((State.count_keeps_outlook (by decide)).calm fun _ => ?_)
    exact bot.execute_within (h found.node (Registry.mem_entries_of_resolve hfound)) _

theorem handleAndSettle_within {bot : Bot} (h : bot.Tame) (message : InboundMessage) :
    (bot.handleAndSettle message).Within State.Calm Settled :=
  within_bind.mpr ((handle_within h message).mono fun _ hr =>
    within_bind.mpr (State.settle_keeps_outlook.calm fun _ => within_done hr))

end Bot

end ChatBot
