/-
  ChatBot.Proofs.Pipeline.Effects — what a run does in a calm state.

  While every service answers and the chat takes everything, what a part of a run shows and
  what it leaves of the admins' records is settled by what it is given and the records it
  finds. `Does` says it of a part, as a triple: the records before, what is shown, the records
  after and the result. Parts that follow each other show one after the other what each of
  them shows (`Does.bind`).

  The gate is asked with whatever state there is; in a calm one it stops nobody but for a
  command that is off (`Gate.check_of_calm`).
-/
import ChatBot.Proofs.Pipeline.Calm

namespace ChatBot

open Steps

variable {α β : Type}

/-! ## What a run does in a calm state -/

/-- From every calm state with the records `before`: the run shows these events, leaves a calm state with the
    records `after`, and `Q` holds of its result. -/
def Steps.Does (before : GateRecords) (shown : List OutputEvent) (after : GateRecords) (Q : α → Prop) (x : Act α) :
    Prop :=
  ∀ s : State, s.Calm → s.stores.gates = before →
    (x.run s).2.Calm ∧ (x.run s).2.stores.gates = after ∧
      (x.run s).2.output.events = s.output.events ++ shown ∧ Q (x.run s).1

namespace Steps

variable {g g' g'' : GateRecords} {shown shown' : List OutputEvent} {P Q : α → Prop} {x : Act α}

theorem does_done {a : α} (h : Q a) : (.done a : Act α).Does g [] g Q :=
  fun _ hs hg => ⟨hs, hg, (List.append_nil _).symm, h⟩

theorem Does.bind {k : α → Act β} {Q : β → Prop} (hx : x.Does g shown g' P)
    (hk : ∀ a, P a → (k a).Does g' shown' g'' Q) : (x >>= k).Does g (shown ++ shown') g'' Q := by
  intro s hs hg
  obtain ⟨hcalm, hgates, hevents, hP⟩ := hx s hs hg
  obtain ⟨hcalm', hgates', hevents', hQ⟩ := hk _ hP _ hcalm hgates
  rw [run_bind]
  exact ⟨hcalm', hgates', by rw [hevents', hevents, List.append_assoc], hQ⟩

/-- What shows nothing and leaves the records. -/
theorem Keeps.does (h : x.Keeps State.outlook) (hevents : x.Keeps fun s => s.output.events) (hQ : ∀ a, Q a) :
    x.Does g [] g Q := by
  intro s hs hg
  have houtlook := h.run s
  have hgates : (x.run s).2.stores.gates = s.stores.gates := congrArg (fun o => o.2.2.1) houtlook
  exact ⟨hs.of_outlook houtlook, hgates.trans hg, by rw [hevents.run s, List.append_nil], hQ _⟩

theorem does_get : (get : Act State).Does g [] g fun s => s.Calm ∧ s.stores.gates = g :=
  fun _ hs hg => ⟨hs, hg, (List.append_nil _).symm, hs, hg⟩

theorem does_tell (entry : Mark) : (tell entry : Act Unit).Does g [] g fun _ => True :=
  fun _ hs hg => ⟨hs, hg, (List.append_nil _).symm, trivial⟩

end Steps

namespace State

variable {g : GateRecords}

theorem count_does {event : Metrics.Event} (h : event ≠ .error false) : (count event).Does g [] g fun _ => True :=
  (count_keeps_outlook h).does (keeps_modify fun _ => rfl) fun _ => trivial

theorem countFor_does (counter : String) : (countFor counter).Does g [] g fun _ => True :=
  (countFor_keeps_outlook counter).does (keeps_modify fun _ => rfl) fun _ => trivial

/-- An admin decides. -/
theorem decide_does (f : GateRecords → α × GateRecords) (hf : g.Switched → (f g).2.Switched) :
    (MonadState.modifyGet fun s : State => ((f s.stores.gates).1, s.mapGates fun g => (f g).2) : Act α).Does g []
      (f g).2 fun a => a = (f g).1 := by
  rintro s hs rfl
  exact ⟨hs.mapGates (fun g => (f g).2) (hf hs.gates), rfl, (List.append_nil _).symm, rfl⟩

/-- A request to a chat that takes everything. -/
theorem request_does {ask : Output → α × Output} {event : OutputEvent} {Q : α → Prop}
    (hrefusals : ∀ o, (ask o).2.refusals = o.refusals)
    (h : ∀ o : Output, (∀ call, o.refusals call = none) → (ask o).2.events = o.events ++ [event] ∧ Q (ask o).1) :
    (request ask).Does g [event] g Q := by
  intro s hs hg
  obtain ⟨hevents, hQ⟩ := h s.output hs.takes
  exact ⟨hs.of_outlook ((request_keeps_outlook hrefusals).run s), hg, hevents, hQ⟩

theorem startTyping_does (channel : String) : (startTyping channel).Does g [.typing channel] g fun _ => True := by
  refine request_does (fun o => o.present_refusals ..) fun o ho => ⟨?_, trivial⟩
  rw [Output.startTyping, Output.present, ho]
  rfl

theorem send_does (channel : String) (message : OutgoingMessage) :
    (send channel message).Does g [.sent channel message] g fun r => ∃ sent, r = .ok sent := by
  refine request_does (fun o => o.send_refusals channel message) fun o ho => ?_
  rw [Output.send, ho]
  exact ⟨rfl, _, rfl⟩

theorem settle_does : settle.Does g [] g fun _ => True :=
  settle_keeps_outlook.does (settle_keeps.comp fun k => k.2.1.events) fun _ => trivial

end State

/-! ### The parts of a run -/

theorem Program.exec_say_does {g : GateRecords} (bot : Bot) (ctx ctx' : Context) (text : String) :
    ((say ctx text).exec bot ctx').Does g [.sent ctx.message.channelId ⟨text, none⟩] g fun r => r = .ok () := by
  refine (State.send_does ctx.message.channelId ⟨text, none⟩).bind fun answer hanswer => ?_
  obtain ⟨sent, rfl⟩ := hanswer
  exact does_done rfl

namespace Bot

variable {g : GateRecords} {shown : List OutputEvent} {after : GateRecords} (bot : Bot) (ctx : Context)

/-- A command without a loading reaction. -/
theorem setUp_does {command : Command} (h : command.loadingAfter = none) :
    (bot.setUp command ctx).Does g [.typing ctx.message.channelId] g fun r => r = none := by
  unfold setUp
  rw [h]
  refine (State.startTyping_does _).bind fun _ _ => ?_
  refine (does_done rfl : (bot.arrangeReaction ctx none).Does g [] g fun r => r = none).bind fun r hr => ?_
  have hhooks : (bot.startHooks ctx).Does g [] g fun _ => True :=
    Keeps.does (keeps_modify fun _ => rfl) (keeps_modify fun _ => rfl) fun _ => trivial
  exact hhooks.bind fun _ _ => does_done hr

theorem leave_does (o : Outcome) {Q : Except OutputError Outcome → Prop} (h : Q (.ok o)) :
    (bot.leave ctx none (.ok o)).Does g [] g Q :=
  does_done h

/-- An error that the user is told. -/
theorem tell_does {e : CommandError} (hfacing : e.isClientFacing = true) (hsilent : e.isSilent = false) :
    (bot.tell ctx e).Does g [.sent ctx.message.channelId ⟨e.message, e.footer⟩] g fun r => r = .ok () := by
  unfold tell
  rw [hfacing, hsilent]
  refine (State.count_does (by simp)).bind fun _ _ => (State.countFor_does "errors").bind fun _ _ => ?_
  rw [if_neg (by simp), if_neg (by simp)]
  refine (State.send_does _ _).bind fun answer hanswer => ?_
  obtain ⟨sent, rfl⟩ := hanswer
  exact does_done rfl

theorem failWith_does {e : CommandError} (hfacing : e.isClientFacing = true) (hsilent : e.isSilent = false)
    {Q : Except OutputError Outcome → Prop} (h : Q (.ok (.failed e))) :
    (bot.failWith ctx e).Does g [.sent ctx.message.channelId ⟨e.message, e.footer⟩] g Q := by
  refine (bot.tell_does ctx hfacing hsilent).bind fun r hr => ?_
  subst hr
  exact does_done h

theorem call_does {part : Handler.Part} {command : Command} {p : Program} (hp : command.handler.program part ctx = p)
    {Q : Except CommandError Unit → Prop} (h : (p.exec bot ctx).Does g shown after Q) :
    (bot.call part command ctx).Does g shown after Q := by
  subst hp
  have hcall := (does_tell (.called part command ctx)).bind fun _ _ => h.bind fun result hr =>
    (does_tell (.returned part command result)).bind fun _ _ => does_done hr
  simp only [List.nil_append, List.append_nil] at hcall
  exact hcall

end Bot

/-! ### The gate -/

/-- The command is off in the server. -/
def GateRecords.disables (g : GateRecords) (guild : String) (id : CommandId) : Bool := (g.status guild id.hex).disabled

theorem GateRecords.Switched.status_eq {g : GateRecords} (h : g.Switched) (guild : String) (id : CommandId) :
    g.status guild id.hex = ⟨g.disables guild id, false⟩ := by
  unfold disables status
  cases hget : g.disabled.get? (guild, id.hex) with
  | none => rfl
  | some status =>
    rw [h.eq_of_get? hget]
    rfl

/-- What the gate answers where commands were only switched off: the author is let through unless the command is
    one of those. -/
theorem Gate.check_of_calm {s : State} (hs : s.Calm) (developers : List String) {c : CommandInfo} (hdev : c.dev = false)
    {message : InboundMessage} {guild : String} (hguild : message.guildId = some guild) :
    check developers s.stores c none message = if s.stores.gates.disables guild c.id
      then .error (.permissionDenied "This command has been disabled in this server") else .ok () := by
  have henabled : checkEnabled s.stores guild c = if s.stores.gates.disables guild c.id
      then .error (deny "This command has been disabled in this server") else .ok () := by
    unfold checkEnabled Stores.disabledStatus
    rw [hs.steady.ask, hs.gates.status_eq]
    cases s.stores.gates.disables guild c.id <;> rfl
  have hallowed : checkAllowed s.stores guild message c = .ok () := by
    unfold checkAllowed Stores.channels Stores.permissions
    rw [hs.steady.ask, hs.steady.ask, GateRecords.channelsOf, GateRecords.permissionsOf, hs.gates.channels,
      hs.gates.permissions]
    rfl
  -- a developer is let through without a look at the channel, and anybody else after one that finds nothing
  simp only [check, Option.toList_none, List.any_cons, hdev, List.any_nil, Bool.or_false, Bool.false_and, hguild,
    checkEach, henabled, hallowed]
  cases s.stores.gates.disables guild c.id <;> cases developers.contains message.author.id <;> rfl

theorem Bot.askGate_does (bot : Bot) {ctx : Context} {g : GateRecords} {guild : String} (hdev : ctx.command.dev = false)
    (hparent : ctx.parent = none) (hguild : ctx.message.guildId = some guild) :
    (bot.askGate ctx).Does g [] g fun verdict => verdict = if g.disables guild ctx.command.id
      then .error (.permissionDenied "This command has been disabled in this server") else .ok () := by
  refine does_get.bind fun s hs => ?_
  obtain ⟨hcalm, rfl⟩ := hs
  rw [hparent, Gate.check_of_calm hcalm bot.config.developers hdev hguild]
  split
  · exact (State.count_does (by decide)).bind fun _ _ => does_done rfl
  · exact does_done rfl

end ChatBot
