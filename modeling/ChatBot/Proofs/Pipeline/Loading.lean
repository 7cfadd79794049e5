/-
  ChatBot.Proofs.Pipeline.Loading — how a run treats the loading reactions that it arranges.

  A run has a charge: the reactions that it arranged and has not taken back, and whether
  one that it took back still has to be removed from the chat. Every step of a run is a
  turn of five kinds (`Turn`): it leaves loading reactions alone, one of them comes due, the
  run arranges one for its message, takes back one in its charge, or removes what it owes.

  Proved, of every step of a run and whatever others do between its steps:
  - What a handler does, and all else between set-up and take-down, leaves the charge as it
    is (`exec_stays`, `runHandler_stays`, `failWith_stays`).
  - `execute_follows`, `handle_follows`: a run owes nothing in the end. With an outcome it
    has taken back all that it arranged, delegates included; without one it may not have.
-/
import ChatBot.Proofs.Pipeline.Delegation

namespace ChatBot

open Steps

/-- What concerns loading reactions: those arranged and the number of the next, why the
    chat refuses to remove any, and what it shows of them. -/
structure Loading where
  reactions : Dict Nat LoadingReaction
  next : Nat
  refusal : Option String
  events : List OutputEvent

def State.loading (s : State) : Loading :=
  ⟨s.reactions, s.nextReaction, s.output.refusals .unreact, s.output.events.filter (!·.isTalk)⟩

/-- What a run is in charge of. -/
structure Charge where
  /-- The reactions that it arranged and has not taken back, the latest first. -/
  held : List Nat
  /-- One that it took back is still shown. -/
  owes : Bool

/-- What a step of a run for a message does, given the run's charge before and after it. -/
inductive Turn (messageId emoji : String) : Charge → State → Charge → State → Prop
  | apart {c : Charge} {s s' : State} : s'.loading = s.loading → Turn messageId emoji c s c s'
  | fire {c : Charge} {s : State} (number : Nat) : Turn messageId emoji c s c (s.fire number)
  | arrange {held : List Nat} {s : State} (due : Nat) :
    Turn messageId emoji ⟨held, false⟩ s ⟨s.nextReaction :: held, false⟩
      { s with
        reactions := s.reactions.insert s.nextReaction ⟨due, messageId, emoji, none⟩
        nextReaction := s.nextReaction + 1 }
  | takeBack {held : List Nat} {s : State} (number : Nat) : number ∈ held →
    Turn messageId emoji ⟨held, false⟩ s
      ⟨held.erase number, (s.reactions.get? number).any (·.shown == some true)⟩
      { s with reactions := s.reactions.erase number }
  | remove {held : List Nat} {s : State} :
    Turn messageId emoji ⟨held, true⟩ s ⟨held, false⟩
      { s with output := (s.output.unreact messageId emoji).2 }

variable {messageId emoji : String} {c : Charge} {α : Type} {x : Act α}

theorem Steps.Keeps.stays_in_charge (h : x.Keeps State.loading) : x.Stays (Turn messageId emoji) c :=
  h.stays fun _ _ => .apart

/-! ## What leaves the charge as it is -/

namespace State

theorem send_keeps_loading (channel : String) (message : OutgoingMessage) : (send channel message).Keeps loading := by
  refine keeps_request fun s => ?_
  have hevents : (s.output.send channel message).2.events.filter (!·.isTalk) =
      s.output.events.filter (!·.isTalk) := by
    unfold Output.send
    split <;> simp [OutputEvent.isTalk]
  simp only [loading, hevents, Output.send_refusals]

theorem startTyping_keeps_loading (channel : String) : (startTyping channel).Keeps loading := by
  refine keeps_request fun s => ?_
  have hevents : (s.output.startTyping channel).2.events.filter (!·.isTalk) =
      s.output.events.filter (!·.isTalk) := Output.present_filter _ _ _ rfl
  have hrefusals : (s.output.startTyping channel).2.refusals = s.output.refusals := Output.present_refusals ..
  simp only [loading, hevents, hrefusals]

theorem settle_keeps_loading : settle.Keeps loading :=
  settle_keeps.comp fun k => Loading.mk k.2.2.1 k.2.2.2.1 (k.2.1.refusals .unreact) (k.2.1.events.filter (!·.isTalk))

/-- Whatever comes due while a run sleeps, the run has no part in it. -/
theorem advance_stays (milliseconds : Nat) : (advance milliseconds).Stays (Turn messageId emoji) c := by
  unfold advance
  split
  · refine settle_keeps_loading.stays_in_charge.bind fun _ => keeps_get.stays_in_charge.bind fun s => ?_
    refine Stays.bind (stays_forM fun r _ => stays_modify fun s => Turn.fire r.1) fun _ => ?_
    exact stays_modify fun _ => .apart rfl
  · exact stays_done _

end State

theorem Program.exec_stays (bot : Bot) (ctx : Context) (p : Program) :
    (p.exec bot ctx).Stays (Turn messageId emoji) c := by
  induction p with
  | done => exact stays_done _
  | fail e => exact stays_done _
  | send channel message next ih => exact (State.send_keeps_loading ..).stays_in_charge.bind ih
  | startTyping channel next ih => exact (State.startTyping_keeps_loading _).stays_in_charge.bind ih
  | resolve options next ih => exact keeps_get.stays_in_charge.bind fun _ => ih _
  | sleep milliseconds next ih => exact (State.advance_stays _).bind fun _ => ih
  | lookup name next ih => exact ih _
  | keepIdentity identity next ih => exact Stays.bind (stays_modify fun _ => .apart rfl) fun _ => ih
  | disable guild command devOnly next ih =>
    exact Stays.bind (stays_modify fun _ => .apart rfl) fun _ => ih
  | enable guild command next ih => exact Stays.bind (Keeps.stays_in_charge (keeps_modifyGet fun _ => rfl)) ih
  | note entry next ih => exact Stays.bind (stays_modify fun _ => .apart rfl) fun _ => ih

namespace Bot

variable (bot : Bot) (ctx : Context)

theorem call_stays (part : Handler.Part) (command : Command) :
    (bot.call part command ctx).Stays (Turn messageId emoji) c := by
  refine (stays_tell _).bind fun _ => (Program.exec_stays ..).bind fun result => ?_
  exact (stays_tell _).bind fun _ => stays_done _

theorem runHandler_stays (command : Command) : (bot.runHandler command ctx).Stays (Turn messageId emoji) c := by
  unfold runHandler
  refine Stays.bind (stays_modify fun _ => .apart rfl) fun _ => ?_
  refine Stays.bind (stays_modify fun _ => .apart rfl) fun _ => ?_
  split
  · exact stays_done _
  · refine (bot.call_stays ctx .prerun command).bind fun result => ?_
    cases result with
    | error e => exact stays_done _
    | ok u => exact bot.call_stays ctx .run command

theorem askGate_stays : (bot.askGate ctx).Stays (Turn messageId emoji) c := by
  unfold askGate
  refine keeps_get.stays_in_charge.bind fun s => ?_
  cases Gate.check bot.config.developers s.stores ctx.command ctx.parent ctx.message with
  | error e => exact Stays.bind (stays_modify fun _ => .apart rfl) fun _ => stays_done _
  | ok u => exact stays_done _

theorem withArgs_follows (command : Command) {Q : Charge → Context → Prop}
    (h : ∀ today, Q c (ctx.reading command today)) : (withArgs command ctx).Follows (Turn messageId emoji) Q c :=
  fun s => ⟨c, .apart rfl, h s.today⟩

theorem failWith_stays (e : CommandError) : (bot.failWith ctx e).Stays (Turn messageId emoji) c := by
  refine Stays.bind ?_ fun _ => stays_done _
  unfold tell
  refine Stays.bind (stays_modify fun _ => .apart rfl) fun _ => ?_
  refine Stays.bind (stays_modify fun _ => .apart rfl) fun _ => ?_
  split
  · refine Stays.bind (stays_modify fun _ => .apart rfl) fun _ => ?_
    exact (State.send_keeps_loading ..).stays_in_charge.bind fun _ => stays_done _
  split
  · exact stays_done _
  · exact (State.send_keeps_loading ..).stays_in_charge.bind fun _ => stays_done _

theorem conclude_stays (result : Except CommandError Unit) :
    (bot.conclude ctx result).Stays (Turn messageId emoji) c := by
  cases result with
  | error e => exact bot.failWith_stays ctx e
  | ok u => exact stays_done _

theorem announceUnknown_stays (message : InboundMessage) (text : String) (e : CommandError) :
    (bot.announceUnknown message text e).Stays (Turn messageId emoji) c := by
  unfold announceUnknown
  split
  · exact (State.send_keeps_loading ..).stays_in_charge.bind fun _ => stays_done _
  · exact stays_done _

/-! ## Set-up and take-down -/

theorem setUp_follows (command : Command) {held : List Nat} {Q : Charge → Option Nat → Prop}
    (h : ∀ reaction : Option Nat, Q ⟨reaction.toList ++ held, false⟩ reaction) :
    (bot.setUp command ctx).Follows (Turn ctx.message.id bot.config.loadingReaction) Q ⟨held, false⟩ := by
  have hhooks : ∀ c : Charge, (bot.startHooks ctx).Stays (Turn ctx.message.id bot.config.loadingReaction) c :=
    fun c => stays_modify fun _ => .apart rfl
  refine follows_bind.mpr ((State.startTyping_keeps_loading _).stays_in_charge.follows fun _ => ?_)
  refine follows_bind.mpr ?_
  cases command.loadingAfter with
  | none => exact follows_bind.mpr ((hhooks _).follows fun _ => h none)
  | some after =>
    intro s
    exact ⟨_, .arrange _, follows_bind.mpr ((hhooks _).follows fun _ => h (some s.nextReaction))⟩

/-- What a run's charge comes to: nothing is owed, and with an outcome nothing is held but
    what was held before. -/
def Discharged (held : List Nat) (c : Charge) (result : Except OutputError Outcome) : Prop :=
  c.owes = false ∧ ∀ o, result = .ok o → c.held = held

theorem takeDown_follows (reaction : Option Nat) {held : List Nat} {Q : Charge → Unit → Prop} (h : Q ⟨held, false⟩ ()) :
    (takeDown ctx bot reaction).Follows (Turn ctx.message.id bot.config.loadingReaction) Q
      ⟨reaction.toList ++ held, false⟩ := by
  cases reaction with
  | none => exact h
  | some number =>
    refine follows_bind.mpr (State.settle_keeps_loading.stays_in_charge.follows fun _ => ?_)
    refine follows_bind.mpr (follows_modifyGet fun s => ⟨_, .takeBack number List.mem_cons_self, ?_⟩)
    rw [show ((some number).toList ++ held).erase number = held from List.erase_cons_head ..]
    dsimp only
    cases (s.reactions.get? number).any (·.shown == some true) with
    | false => exact h
    | true =>
      refine follows_bind.mpr (follows_modifyGet fun s => ⟨_, .remove, ?_⟩)
      exact h

theorem leave_follows (reaction : Option Nat) {held : List Nat} {result : Except OutputError Outcome}
    (h : Discharged (reaction.toList ++ held) c result) :
    (bot.leave ctx reaction result).Follows (Turn ctx.message.id bot.config.loadingReaction) (Discharged held) c := by
  cases result with
  | error e => exact ⟨h.1, fun o ho => nomatch ho⟩
  | ok o =>
    obtain ⟨held', owes⟩ := c
    obtain ⟨rfl, hheld⟩ := h
    obtain rfl := hheld o rfl
    exact follows_bind.mpr (bot.takeDown_follows ctx reaction ⟨rfl, fun _ _ => rfl⟩)

/-! ## Runs -/

theorem execute_follows (command : Command) (ctx : Context) (held : List Nat) :
    (bot.execute command ctx).Follows (Turn ctx.message.id bot.config.loadingReaction) (Discharged held)
      ⟨held, false⟩ := by
  induction command using Command.delegation_induction generalizing ctx held with
  | h command ih =>
    rw [execute]
    split
    · refine follows_bind.mpr (Stays.follows (stays_modify fun _ => .apart rfl) fun _ => ?_)
      exact ⟨rfl, fun _ _ => rfl⟩
    refine follows_bind.mpr (bot.setUp_follows ctx command fun reaction => ?_)
    have hleave : ∀ (ctx' : Context) (result : Except OutputError Outcome), ctx'.message = ctx.message →
        (bot.leave ctx' reaction result).Follows (Turn ctx.message.id bot.config.loadingReaction) (Discharged held)
          ⟨reaction.toList ++ held, false⟩ := by
      intro ctx' result hmessage
      rw [← hmessage]
      exact bot.leave_follows ctx' reaction ⟨rfl, fun _ _ => rfl⟩
    refine follows_bind.mpr ((bot.askGate_stays ctx).follows fun verdict => ?_)
    cases verdict with
    | error e => exact follows_bind.mpr ((bot.failWith_stays ctx e).follows fun result => hleave ctx result rfl)
    | ok u =>
      refine follows_bind.mpr (withArgs_follows ctx command fun today => ?_)
      split
      · rename_i d hd
        refine follows_bind.mpr (Stays.follows (stays_modify fun _ => .apart rfl) fun _ => ?_)
        -- The delegate runs inside: the reaction of this command is among what it leaves held.
        have hdelegate := ih d (Command.delegateFor_mem hd) ((ctx.reading command today).forDelegate d.2.info)
          (reaction.toList ++ held)
        refine follows_bind.mpr (Follows.mono hdelegate fun c inner hinner => ?_)
        refine bot.leave_follows _ reaction ⟨hinner.1, fun o ho => ?_⟩
        cases inner with
        | error e => cases ho
        | ok o => exact hinner.2 o rfl
      · refine follows_bind.mpr ((bot.runHandler_stays _ command).follows fun result => ?_)
        exact follows_bind.mpr ((bot.conclude_stays _ result).follows fun o => hleave _ o rfl)

/-- A run for a message owes nothing in the end, and with an outcome it holds nothing. -/
theorem handle_follows (message : InboundMessage) :
    (bot.handle message).Follows (Turn message.id bot.config.loadingReaction) (Discharged []) ⟨[], false⟩ := by
  unfold handle
  split
  · exact ⟨rfl, fun _ _ => rfl⟩
  split
  · exact (bot.announceUnknown_stays ..).follows fun _ => ⟨rfl, fun _ _ => rfl⟩
  · rename_i resolution _
    refine follows_bind.mpr (Stays.follows (stays_modify fun _ => .apart rfl) fun _ => ?_)
    exact bot.execute_follows resolution.node.command (.ofResolution bot.config message resolution) []

end Bot

end ChatBot
