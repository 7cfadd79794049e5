/-
  ChatBot.Proofs.Detail.States — states that differ in the detail of errors.

  States are alike when the failures to come and the errors already reported differ in
  their detail, and nothing else differs (`State.Alike`). Each small step leads from
  states that are alike to states that are alike, and answers alike.
-/
import ChatBot.Proofs.Detail.Answers
import ChatBot.Proofs.Steps

namespace ChatBot

open Steps

def ErrorReport.withoutDetail (r : ErrorReport) : ErrorReport := { r with error := "" }

/-- The operators were told of the same errors, in detail or not. -/
structure Monitor.Alike (m n : Monitor) : Prop where
  reports : m.reports.map ErrorReport.withoutDetail = n.reports.map ErrorReport.withoutDetail
  counters : m.counters = n.counters

structure State.Alike (s t : State) : Prop where
  stores : s.stores.Alike t.stores
  output : s.output.Alike t.output
  monitor : s.monitor.Alike t.monitor
  metrics : s.metrics = t.metrics
  today : s.today = t.today
  draw : s.draw = t.draw
  clock : s.clock = t.clock
  reactions : s.reactions = t.reactions
  nextReaction : s.nextReaction = t.nextReaction
  started : s.started = t.started
  hookTraces : s.hookTraces = t.hookTraces
  notes : s.notes = t.notes

/-- Two computations go through states that are alike, to results that correspond. -/
abbrev ActsAlike {α β : Type} (Q : α → β → Prop) (x : Act α) (y : Act β) : Prop := x.Matches State.Alike Q y

namespace State

variable {s t : State}

theorem mapStores_alike (h : s.Alike t) {f g : Stores → Stores} (hf : (f s.stores).Alike (g t.stores)) :
    (s.mapStores f).Alike (t.mapStores g) :=
  { h with stores := hf }

theorem mapGates_alike (h : s.Alike t) (f : GateRecords → GateRecords) : (s.mapGates f).Alike (t.mapGates f) :=
  mapStores_alike h { h.stores with gates := congrArg f h.stores.gates }

/-! ## Small steps -/

theorem count_alike (event : Metrics.Event) : ActsAlike Eq (count event) (count event) :=
  matches_modify fun _ _ h => { h with metrics := congrArg (·.record event) h.metrics }

theorem countFor_alike (counter : String) : ActsAlike Eq (countFor counter) (countFor counter) :=
  matches_modify fun _ _ h =>
    { h with monitor := { h.monitor with counters := congrArg (·.increment counter) h.monitor.counters } }

theorem report_alike {r r' : ErrorReport} (hr : r.withoutDetail = r'.withoutDetail) :
    ActsAlike Eq (report r) (report r') := by
  refine matches_modify fun s t h => { h with monitor := { h.monitor with reports := ?_ } }
  show (s.monitor.reports ++ [r]).map _ = (t.monitor.reports ++ [r']).map _
  rw [List.map_append, List.map_append, h.monitor.reports, List.map_singleton, List.map_singleton, hr]

theorem note_alike (entry : Note) : ActsAlike Eq (note entry) (note entry) :=
  matches_modify fun _ _ h => { h with notes := congrArg (· ++ [entry]) h.notes }

/-- What the chat answers; a refusal may differ in its detail. -/
abbrev ChatAnswers {α : Type} (x y : Except OutputError α) : Prop := Agree OutputError.Alike Eq x y

theorem request_alike {α : Type} {ask : Output → Except OutputError α × Output} (hask : Output.Asks ask) :
    ActsAlike ChatAnswers (request ask) (request ask) := by
  refine matches_modifyGet fun s t h => ?_
  obtain ⟨hanswer, houtput⟩ := hask s.output t.output h.output
  exact ⟨hanswer, { h with output := houtput }⟩

theorem send_alike (channel : String) (message : OutgoingMessage) :
    ActsAlike ChatAnswers (send channel message) (send channel message) :=
  request_alike (Output.send_alike channel message)

theorem startTyping_alike (channel : String) : ActsAlike ChatAnswers (startTyping channel) (startTyping channel) :=
  request_alike (Output.present_alike _ _ fun _ _ => rfl)

theorem unreact_alike (messageId emoji : String) :
    ActsAlike ChatAnswers (unreact messageId emoji) (unreact messageId emoji) :=
  request_alike (Output.present_alike _ _ fun _ _ => rfl)

/-! ## Hooks and the clock -/

theorem syncIdentity_alike {s t : Stores} (h : s.Alike t) (userId : String) :
    Agree (fun _ _ => True) Stores.Alike (syncIdentity userId s) (syncIdentity userId t) := by
  have huser : Agree (fun _ _ => True) Eq (s.user userId) (t.user userId) :=
    (s.user_alike h userId).mono fun _ _ _ => trivial
  refine huser.bind ?_
  rintro user _ rfl
  cases user with
  | none => exact .ok h
  | some identity =>
    dsimp only
    rw [← h.analytics]
    split
    · rename_i analytics _ _
      cases analytics.sync identity with
      | error e => exact .error trivial
      | ok synced => exact .ok { h with analytics := rfl }
    · exact .ok h

theorem runHook_alike (hook : StartedHook) : ActsAlike Eq (runHook hook) (runHook hook) := by
  unfold runHook
  split
  · refine matches_bind (P := Eq) (matches_modifyGet fun s t h => ?_) ?_
    · have hsync := syncIdentity_alike h.stores hook.authorId
      generalize syncIdentity hook.authorId s.stores = x at hsync
      generalize syncIdentity hook.authorId t.stores = y at hsync
      cases hsync with
      | ok hstores => exact ⟨rfl, { h with stores := hstores }⟩
      | error _ => exact ⟨rfl, h⟩
    · rintro synced _ rfl
      split
      · exact count_alike _
      · exact .done rfl
  · refine matches_bind (P := Eq) (matches_modify fun s t h => ?_) fun _ _ _ => ?_
    · exact { h with hookTraces := congrArg (· ++ [_]) h.hookTraces }
    · split
      · exact count_alike _
      · exact .done rfl

theorem settle_alike : ActsAlike Eq settle settle := by
  refine matches_bind (P := Eq) (matches_modifyGet fun s t h => ⟨h.started, { h with started := rfl }⟩) ?_
  rintro started _ rfl
  exact matches_forM fun hook _ => runHook_alike hook

theorem fire_alike (number : Nat) (h : s.Alike t) : (s.fire number).Alike (t.fire number) := by
  have hwaiting : s.waiting? number = t.waiting? number := by rw [waiting?, waiting?, h.reactions]
  cases hs : s.waiting? number with
  | none => rwa [fire_of_not_waiting hs, fire_of_not_waiting (hwaiting ▸ hs)]
  | some reaction =>
    rw [fire_of_waiting hs, fire_of_waiting (hwaiting ▸ hs)]
    have hreact : Output.Asks fun o => o.react reaction.messageId reaction.emoji :=
      Output.present_alike _ _ fun _ _ => rfl
    obtain ⟨hanswer, houtput⟩ := hreact s.output t.output h.output
    refine { h with output := houtput, reactions := ?_ }
    dsimp only
    rw [h.reactions]
    exact congrArg (fun shown => t.reactions.insert number { reaction with shown := some shown }) hanswer.toBool_eq

theorem advance_alike (milliseconds : Nat) : ActsAlike Eq (advance milliseconds) (advance milliseconds) := by
  unfold advance
  split
  · refine matches_bind settle_alike fun _ _ _ => matches_bind matches_get fun s t h => ?_
    have hdue : dueBefore (s.clock + milliseconds) s = dueBefore (t.clock + milliseconds) t := by
      rw [dueBefore, dueBefore, h.clock, h.reactions]
    dsimp only
    rw [hdue, h.clock]
    refine matches_bind (matches_forM fun r _ => matches_modify fun _ _ h => fire_alike r.1 h) fun _ _ _ => ?_
    exact matches_modify fun _ _ h => { h with clock := rfl }
  · exact .done rfl

end State

end ChatBot
