/-
  ChatBot.Proofs.Pipeline.Tended — loading reactions in the hands of several runs.

  Everybody's charge is kept beside the runs (`Worker`), and one invariant is about all of
  them (`Tended`): what is arranged for a message is in somebody's charge, and the chat
  was asked to show as many reactions as it removed, plus those still shown, plus those
  taken back and not removed yet. A run that takes a reaction back waits for its timer, so
  a reaction that is shown is known to be shown by then.

  Proved:
  - `tended_fire`, `Tended.join`, `tended_turn`: every timer, every run that begins and every
    turn of a run keep the invariant.
  - `fire_events`, `Turn.events`: while nothing is arranged for a message, no timer and no
    turn of a run for another message shows or removes anything on it.
-/
import ChatBot.Proofs.Dict
import ChatBot.Proofs.Pipeline.Loading

namespace ChatBot

open Steps

/-- The bot shows or removes its loading reaction on a message. -/
def OutputEvent.isLoading (messageId emoji : String) (e : OutputEvent) : Bool :=
  e == .reacted messageId emoji || e == .unreacted messageId emoji

/-- What concerns loading reactions, with the events of one message only. -/
def State.loadingOf (messageId emoji : String) (s : State) : Loading :=
  { s.loading with events := s.output.events.filter (·.isLoading messageId emoji) }

/-- No more reactions were removed than shown, at any moment. -/
def Ahead (messageId emoji : String) (events : List OutputEvent) : Prop :=
  ∀ p, p <+: events → p.count (.unreacted messageId emoji) ≤ p.count (.reacted messageId emoji)

/-- So many reactions on the message were shown and not removed. -/
structure Outstanding (messageId emoji : String) (events : List OutputEvent) (n : Nat) : Prop where
  balance : events.count (.reacted messageId emoji) = events.count (.unreacted messageId emoji) + n
  ahead : Ahead messageId emoji events

/-- A run, by its message and its charge. -/
structure Worker where
  messageId : String
  charge : Charge

/-- A worker for the message has to remove a reaction. -/
def Worker.owes (messageId : String) (w : Worker) : Bool := w.messageId == messageId && w.charge.owes

/-- A reaction on the message is shown. -/
def LoadingReaction.isShown (messageId : String) (r : LoadingReaction) : Bool :=
  r.messageId == messageId && r.shown == some true

/-- Loading reactions in the hands of some workers, as far as one message is concerned. -/
structure Tended (messageId emoji : String) (ws : List Worker) (l : Loading) : Prop where
  removable : l.refusal = none
  keyed : l.reactions.keys.Nodup
  numbered : ∀ n r, l.reactions.get? n = some r → n < l.next
  emojis : ∀ n r, l.reactions.get? n = some r → r.emoji = emoji
  issued : ∀ w ∈ ws, ∀ n ∈ w.charge.held, n < l.next
  own : ∀ w ∈ ws, ∀ n ∈ w.charge.held, ∀ r, l.reactions.get? n = some r → r.messageId = w.messageId
  covered : ∀ n r, l.reactions.get? n = some r → r.messageId = messageId →
    ∃ w ∈ ws, w.messageId = messageId ∧ n ∈ w.charge.held
  outstanding : Outstanding messageId emoji l.events
    (l.reactions.values.countP (·.isShown messageId) + ws.countP (·.owes messageId))

variable {messageId emoji : String} {ws : List Worker}

/-! ## The count of what is shown -/

namespace Outstanding

variable {events : List OutputEvent} {n : Nat}

theorem nothing : Outstanding messageId emoji [] 0 := by
  refine ⟨rfl, fun p hp => ?_⟩
  rw [List.prefix_nil.mp hp]
  exact Nat.le_refl 0

/-- One event more, and so many outstanding reactions more or fewer. -/
theorem concat (h : Outstanding messageId emoji events n) {e : OutputEvent} {n' : Nat}
    (he : [e].count (.reacted messageId emoji) + n = [e].count (.unreacted messageId emoji) + n') :
    Outstanding messageId emoji (events ++ [e]) n' := by
  have hbalance := h.balance
  have hcounts : (events ++ [e]).count (.reacted messageId emoji) =
      (events ++ [e]).count (.unreacted messageId emoji) + n' := by
    rw [List.count_append, List.count_append]
    omega
  refine ⟨hcounts, fun p hp => ?_⟩
  rcases List.prefix_concat_iff.mp hp with rfl | hp
  · omega
  · exact h.ahead p hp

theorem react (h : Outstanding messageId emoji events n) :
    Outstanding messageId emoji (events ++ [.reacted messageId emoji]) (n + 1) :=
  h.concat (by simp [Nat.add_comm])

theorem unreact (h : Outstanding messageId emoji events (n + 1)) :
    Outstanding messageId emoji (events ++ [.unreacted messageId emoji]) n :=
  h.concat (by simp [Nat.add_comm])

end Outstanding

theorem loadingOf_eq (s : State) : s.loadingOf messageId emoji =
    { s.loading with events := s.loading.events.filter (·.isLoading messageId emoji) } := by
  have hevents : s.loading.events.filter (·.isLoading messageId emoji) =
      s.output.events.filter (·.isLoading messageId emoji) := by
    rw [State.loading, List.filter_filter]
    refine List.filter_congr fun e _ => ?_
    cases e <;> simp [OutputEvent.isLoading, OutputEvent.isTalk]
  rw [hevents]
  rfl

theorem waiting?_eq_some {s : State} {n : Nat} {r : LoadingReaction} (h : s.waiting? n = some r) :
    s.reactions.get? n = some r ∧ r.shown = none := by
  obtain ⟨hget, hshown⟩ := Option.filter_eq_some_iff.mp h
  exact ⟨hget, by simpa using hshown⟩

/-- What a timer does for one message: it keeps how showing went, and shows nothing on others. -/
theorem fire_loadingOf {s : State} {n : Nat} {r : LoadingReaction} (h : s.waiting? n = some r) (hr : r.emoji = emoji) :
    ∃ taken : Bool, (s.fire n).loadingOf messageId emoji = { s.loadingOf messageId emoji with
      reactions := s.reactions.insert n { r with shown := some taken }
      events := (s.loadingOf messageId emoji).events ++
        if taken && r.messageId == messageId then [.reacted messageId emoji] else [] } := by
  subst hr
  rw [State.fire_of_waiting h]
  unfold State.loadingOf State.loading Output.react Output.present
  cases s.output.refusals .react with
  | some why => exact ⟨false, by simp [Except.toBool]⟩
  | none =>
    refine ⟨true, ?_⟩
    by_cases hid : r.messageId = messageId
    · simp [Except.toBool, Output.record, OutputEvent.isLoading, hid]
    · simp [Except.toBool, Output.record, OutputEvent.isLoading, hid]

theorem tended_fire {s : State} (h : Tended messageId emoji ws (s.loadingOf messageId emoji)) (n : Nat) :
    Tended messageId emoji ws ((s.fire n).loadingOf messageId emoji) := by
  cases hw : s.waiting? n with
  | none => rwa [State.fire_of_not_waiting hw]
  | some r =>
    obtain ⟨hget, hshown⟩ := waiting?_eq_some hw
    obtain ⟨taken, hfire⟩ := fire_loadingOf hw (h.emojis n r hget)
    rw [hfire]
    have hentry : ∀ m r', (s.reactions.insert n { r with shown := some taken }).get? m = some r' →
        ∃ r₀, s.reactions.get? m = some r₀ ∧ r'.messageId = r₀.messageId ∧ r'.emoji = r₀.emoji := by
      intro m r' hr'
      rw [Dict.get?_insert] at hr'
      split at hr'
      · rename_i hm
        obtain rfl := Option.some.inj hr'
        exact ⟨r, hm ▸ hget, rfl, rfl⟩
      · exact ⟨r', hr', rfl, rfl⟩
    constructor
    case removable => exact h.removable
    case keyed => exact Dict.nodup_insert h.keyed n _
    case numbered =>
      intro m r' hr'
      obtain ⟨r₀, hr₀, -⟩ := hentry m r' hr'
      exact h.numbered m r₀ hr₀
    case emojis =>
      intro m r' hr'
      obtain ⟨r₀, hr₀, -, hemoji⟩ := hentry m r' hr'
      exact hemoji.trans (h.emojis m r₀ hr₀)
    case issued => exact h.issued
    case own =>
      intro w hw m hm r' hr'
      obtain ⟨r₀, hr₀, hid, -⟩ := hentry m r' hr'
      exact hid.trans (h.own w hw m hm r₀ hr₀)
    case covered =>
      intro m r' hr' hid'
      obtain ⟨r₀, hr₀, hid, -⟩ := hentry m r' hr'
      exact h.covered m r₀ hr₀ (hid.symm.trans hid')
    case outstanding =>
      have hold : r.isShown messageId = false := by simp [LoadingReaction.isShown, hshown]
      have hnew : ({ r with shown := some taken } : LoadingReaction).isShown messageId =
          (taken && r.messageId == messageId) := by
        cases taken <;> simp [LoadingReaction.isShown]
      have hcount := Dict.countP_insert s.reactions n { r with shown := some taken } (·.isShown messageId)
      rw [hget, Option.any_some, hold, hnew, Bool.toNat_false, Nat.add_zero] at hcount
      dsimp only
      rw [hcount]
      cases taken && r.messageId == messageId with
      | false =>
        rw [if_neg Bool.false_ne_true, List.append_nil]
        exact h.outstanding
      | true =>
        rw [if_pos rfl, Bool.toNat_true, Nat.add_right_comm]
        exact h.outstanding.react

/-! ## A run takes a turn -/

section Turns

variable {k : Nat} {w : Worker}

theorem set_of_getElem? {α : Type} {l : List α} {a : α} (h : l[k]? = some a) : l.set k a = l := by
  obtain ⟨hlt, rfl⟩ := List.getElem?_eq_some_iff.mp h
  exact List.set_getElem_self hlt

theorem mem_or_eq_of_mem {v : Worker} (hk : ws[k]? = some w) {u : Worker} (hu : u ∈ ws) : u ∈ ws.set k v ∨ u = w := by
  obtain ⟨n, hn⟩ := List.mem_iff_getElem?.mp hu
  by_cases hnk : n = k
  · subst hnk
    exact .inr (Option.some.inj (hn.symm.trans hk))
  · refine .inl (List.mem_iff_getElem?.mpr ⟨n, ?_⟩)
    rw [List.getElem?_set_ne (Ne.symm hnk), hn]

theorem not_owes (h : w.charge.owes = false) : w.owes messageId = false := by
  rw [Worker.owes, h, Bool.and_false]

theorem isShown_of_none {r : LoadingReaction} (h : r.shown = none) : r.isShown messageId = false := by
  rw [LoadingReaction.isShown, h]
  exact Bool.and_false _

theorem countP_owes_set (messageId : String) (hk : ws[k]? = some w) (v : Worker) :
    (ws.set k v).countP (·.owes messageId) + (w.owes messageId).toNat =
      ws.countP (·.owes messageId) + (v.owes messageId).toNat := by
  obtain ⟨hlt, rfl⟩ := List.getElem?_eq_some_iff.mp hk
  have hle := List.boole_getElem_le_countP (p := (·.owes messageId)) hlt
  have htoNat : ∀ b : Bool, (if b = true then 1 else 0) = b.toNat := by decide
  rw [List.countP_set hlt]
  simp only [htoNat] at hle ⊢
  omega

/-- What a worker holds of a message that is not in the hands of another. -/
theorem covered_set {held held' : List Nat} {m : String} {owes owes' : Bool} {n : Nat}
    (hk : ws[k]? = some ⟨m, ⟨held, owes⟩⟩) (hn : n ∈ held → n ∈ held')
    (h : ∃ u ∈ ws, u.messageId = messageId ∧ n ∈ u.charge.held) :
    ∃ u ∈ ws.set k ⟨m, ⟨held', owes'⟩⟩, u.messageId = messageId ∧ n ∈ u.charge.held := by
  obtain ⟨u, hu, hid, hheld⟩ := h
  rcases mem_or_eq_of_mem hk hu with hset | rfl
  · exact ⟨u, hset, hid, hheld⟩
  · exact ⟨⟨m, ⟨held', owes'⟩⟩, List.mem_set (List.getElem?_eq_some_iff.mp hk).1 _, hid, hn hheld⟩

/-- What is true of all that is held stays true when the charge of one worker changes. -/
theorem held_set (P : String → Nat → Prop) {held held' : List Nat} {m : String} {owes owes' : Bool}
    (hk : ws[k]? = some ⟨m, ⟨held, owes⟩⟩) (h : ∀ u ∈ ws, ∀ n ∈ u.charge.held, P u.messageId n)
    (hheld : ∀ n ∈ held', n ∈ held ∨ P m n) :
    ∀ u ∈ ws.set k ⟨m, ⟨held', owes'⟩⟩, ∀ n ∈ u.charge.held, P u.messageId n := by
  intro u hu n hn
  rcases List.mem_or_eq_of_mem_set hu with hu | rfl
  · exact h u hu n hn
  · rcases hheld n hn with hold | hnew
    · exact h _ (List.mem_of_getElem? hk) n hold
    · exact hnew

theorem tended_arrange {m : String} {held : List Nat} {s : State}
    (h : Tended messageId emoji ws (s.loadingOf messageId emoji)) (hk : ws[k]? = some ⟨m, ⟨held, false⟩⟩) (due : Nat) :
    Tended messageId emoji (ws.set k ⟨m, ⟨s.nextReaction :: held, false⟩⟩) { s.loadingOf messageId emoji with
      reactions := s.reactions.insert s.nextReaction ⟨due, m, emoji, none⟩
      next := s.nextReaction + 1 } := by
  have hentry : ∀ n r, (s.reactions.insert s.nextReaction ⟨due, m, emoji, none⟩).get? n = some r →
      (n = s.nextReaction ∧ r = ⟨due, m, emoji, none⟩) ∨ (n ≠ s.nextReaction ∧ s.reactions.get? n = some r) := by
    intro n r hr
    rw [Dict.get?_insert] at hr
    split at hr
    · exact .inl ⟨‹_›, (Option.some.inj hr).symm⟩
    · exact .inr ⟨‹_›, hr⟩
  constructor
  case removable => exact h.removable
  case keyed => exact Dict.nodup_insert h.keyed _ _
  case numbered =>
    intro n r hr
    rcases hentry n r hr with ⟨rfl, -⟩ | ⟨-, hr⟩
    · exact Nat.lt_succ_self _
    · exact Nat.lt_succ_of_lt (h.numbered n r hr)
  case emojis =>
    intro n r hr
    rcases hentry n r hr with ⟨-, rfl⟩ | ⟨-, hr⟩
    · rfl
    · exact h.emojis n r hr
  case issued =>
    refine held_set (fun _ n => n < s.nextReaction + 1) hk
      (fun u hu n hn => Nat.lt_succ_of_lt (h.issued u hu n hn)) fun n hn => ?_
    rcases List.mem_cons.mp hn with rfl | hn
    · exact .inr (Nat.lt_succ_self _)
    · exact .inl hn
  case own =>
    refine held_set (fun m' n => ∀ r, (s.reactions.insert s.nextReaction ⟨due, m, emoji, none⟩).get? n = some r →
      r.messageId = m') hk (fun u hu n hn r hr => ?_) fun n hn => ?_
    · rcases hentry n r hr with ⟨rfl, -⟩ | ⟨-, hr⟩
      · exact absurd (h.issued u hu _ hn) (Nat.lt_irrefl _)
      · exact h.own u hu n hn r hr
    · rcases List.mem_cons.mp hn with rfl | hn
      · refine .inr fun r hr => ?_
        rcases hentry _ r hr with ⟨-, rfl⟩ | ⟨hne, -⟩
        · rfl
        · exact absurd rfl hne
      · exact .inl hn
  case covered =>
    intro n r hr hid
    rcases hentry n r hr with ⟨rfl, rfl⟩ | ⟨-, hr⟩
    · exact ⟨_, List.mem_set (List.getElem?_eq_some_iff.mp hk).1 _, hid, List.mem_cons_self⟩
    · exact covered_set hk (List.mem_cons_of_mem _) (h.covered n r hr hid)
  case outstanding =>
    have hnone : s.reactions.get? s.nextReaction = none := by
      refine Option.eq_none_iff_forall_ne_some.mpr fun r hr => ?_
      exact Nat.lt_irrefl _ (h.numbered _ r hr)
    have hshown : (s.reactions.insert s.nextReaction ⟨due, m, emoji, none⟩).values.countP (·.isShown messageId) =
        s.reactions.values.countP (·.isShown messageId) := by
      have hcount := Dict.countP_insert s.reactions s.nextReaction ⟨due, m, emoji, none⟩ (·.isShown messageId)
      rwa [hnone, isShown_of_none rfl] at hcount
    have howes : (ws.set k ⟨m, ⟨s.nextReaction :: held, false⟩⟩).countP (·.owes messageId) =
        ws.countP (·.owes messageId) := by
      have hcount := countP_owes_set messageId hk ⟨m, ⟨s.nextReaction :: held, false⟩⟩
      rwa [not_owes rfl, not_owes rfl] at hcount
    dsimp only
    rw [hshown, howes]
    exact h.outstanding

theorem tended_takeBack {m : String} {held : List Nat} {s : State} {n : Nat}
    (h : Tended messageId emoji ws (s.loadingOf messageId emoji)) (hk : ws[k]? = some ⟨m, ⟨held, false⟩⟩)
    (hn : n ∈ held) :
    Tended messageId emoji (ws.set k ⟨m, ⟨held.erase n, (s.reactions.get? n).any (·.shown == some true)⟩⟩)
      { s.loadingOf messageId emoji with reactions := s.reactions.erase n } := by
  have hmem : ⟨m, ⟨held, false⟩⟩ ∈ ws := List.mem_of_getElem? hk
  have hentry : ∀ i r, (s.reactions.erase n).get? i = some r → i ≠ n ∧ s.reactions.get? i = some r := by
    intro i r hr
    rw [Dict.get?_erase] at hr
    split at hr
    · cases hr
    · exact ⟨‹_›, hr⟩
  constructor
  case removable => exact h.removable
  case keyed => exact Dict.nodup_erase h.keyed n
  case numbered => exact fun i r hr => h.numbered i r (hentry i r hr).2
  case emojis => exact fun i r hr => h.emojis i r (hentry i r hr).2
  case issued => exact held_set (fun _ i => i < s.nextReaction) hk h.issued fun i hi => .inl (List.mem_of_mem_erase hi)
  case own =>
    exact held_set (fun m' i => ∀ r, (s.reactions.erase n).get? i = some r → r.messageId = m') hk
      (fun u hu i hi r hr => h.own u hu i hi r (hentry i r hr).2) fun i hi => .inl (List.mem_of_mem_erase hi)
  case covered =>
    intro i r hr hid
    obtain ⟨hne, hr⟩ := hentry i r hr
    exact covered_set hk (List.mem_erase_of_ne hne).mpr (h.covered i r hr hid)
  case outstanding =>
    have hkeyed : s.reactions.keys.Nodup := h.keyed
    have hshown := Dict.countP_erase hkeyed n (·.isShown messageId)
    have howes := countP_owes_set messageId hk ⟨m, ⟨held.erase n, (s.reactions.get? n).any (·.shown == some true)⟩⟩
    -- What is taken out of the table while it is shown is what the worker owes from now on.
    have hsame : (s.reactions.get? n).any (·.isShown messageId) =
        Worker.owes messageId ⟨m, ⟨held.erase n, (s.reactions.get? n).any (·.shown == some true)⟩⟩ := by
      cases hget : s.reactions.get? n with
      | none => exact (not_owes rfl).symm
      | some r =>
        have hid : r.messageId = m := h.own _ hmem n hn r hget
        simp only [Option.any_some, LoadingReaction.isShown, Worker.owes, hid]
    rw [not_owes rfl, Bool.toNat_false, ← hsame] at howes
    have hsum : (s.reactions.erase n).values.countP (·.isShown messageId) +
        (ws.set k ⟨m, ⟨held.erase n, (s.reactions.get? n).any (·.shown == some true)⟩⟩).countP (·.owes messageId) =
        s.reactions.values.countP (·.isShown messageId) + ws.countP (·.owes messageId) := by
      omega
    dsimp only
    rw [hsum]
    exact h.outstanding

/-- What removing a reaction does for one message, while the chat does not refuse it. -/
theorem unreact_loadingOf {s : State} (h : s.output.refusals .unreact = none) (m : String) :
    State.loadingOf messageId emoji { s with output := (s.output.unreact m emoji).2 } =
      { s.loadingOf messageId emoji with events := (s.loadingOf messageId emoji).events ++
        if m == messageId then [.unreacted messageId emoji] else [] } := by
  unfold State.loadingOf State.loading Output.unreact Output.present
  by_cases hm : m = messageId
  · simp [h, Output.record, OutputEvent.isLoading, hm]
  · simp [h, Output.record, OutputEvent.isLoading, hm]

theorem tended_remove {m : String} {held : List Nat} {s : State}
    (h : Tended messageId emoji ws (s.loadingOf messageId emoji)) (hk : ws[k]? = some ⟨m, ⟨held, true⟩⟩) :
    Tended messageId emoji (ws.set k ⟨m, ⟨held, false⟩⟩)
      (State.loadingOf messageId emoji { s with output := (s.output.unreact m emoji).2 }) := by
  rw [unreact_loadingOf h.removable m]
  constructor
  case removable => exact h.removable
  case keyed => exact h.keyed
  case numbered => exact h.numbered
  case emojis => exact h.emojis
  case issued => exact held_set (fun _ n => n < s.nextReaction) hk h.issued fun _ => .inl
  case own => exact held_set (fun m' n => ∀ r, s.reactions.get? n = some r → r.messageId = m') hk h.own fun _ => .inl
  case covered => exact fun n r hr hid => covered_set hk id (h.covered n r hr hid)
  case outstanding =>
    have howes := countP_owes_set messageId hk ⟨m, ⟨held, false⟩⟩
    have howed : Worker.owes messageId ⟨m, ⟨held, true⟩⟩ = (m == messageId) := Bool.and_true _
    have hpaid : Worker.owes messageId ⟨m, ⟨held, false⟩⟩ = false := not_owes rfl
    rw [howed, hpaid, Bool.toNat_false, Nat.add_zero] at howes
    have hout := h.outstanding
    rw [← howes, ← Nat.add_assoc] at hout
    dsimp only
    generalize (m == messageId) = mine at hout ⊢
    cases mine with
    | true =>
      rw [if_pos rfl]
      exact hout.unreact
    | false =>
      rw [if_neg Bool.false_ne_true, List.append_nil]
      exact hout

/-- A run begins, with nothing in its charge. -/
theorem Tended.join {l : Loading} (h : Tended messageId emoji ws l) (m : String) :
    Tended messageId emoji (ws ++ [⟨m, ⟨[], false⟩⟩]) l := by
  constructor
  case removable => exact h.removable
  case keyed => exact h.keyed
  case numbered => exact h.numbered
  case emojis => exact h.emojis
  case issued =>
    intro u hu n hn
    rcases List.mem_append.mp hu with hu | hu
    · exact h.issued u hu n hn
    · obtain rfl := List.mem_singleton.mp hu
      cases hn
  case own =>
    intro u hu n hn
    rcases List.mem_append.mp hu with hu | hu
    · exact h.own u hu n hn
    · obtain rfl := List.mem_singleton.mp hu
      cases hn
  case covered =>
    intro n r hr hid
    obtain ⟨u, hu, hheld⟩ := h.covered n r hr hid
    exact ⟨u, List.mem_append_left _ hu, hheld⟩
  case outstanding =>
    rw [List.countP_append, List.countP_singleton, not_owes rfl, if_neg Bool.false_ne_true, Nat.add_zero]
    exact h.outstanding

/-- Every turn of a run keeps loading reactions tended. -/
theorem tended_turn {s s' : State} {c : Charge} (h : Tended messageId emoji ws (s.loadingOf messageId emoji))
    (hk : ws[k]? = some w) (ht : Turn w.messageId emoji w.charge s c s') :
    Tended messageId emoji (ws.set k ⟨w.messageId, c⟩) (s'.loadingOf messageId emoji) := by
  obtain ⟨m, c₀⟩ := w
  have hsame : ws.set k ⟨m, c₀⟩ = ws := set_of_getElem? hk
  cases ht with
  | apart hs =>
    rw [hsame, loadingOf_eq, hs, ← loadingOf_eq]
    exact h
  | fire n =>
    rw [hsame]
    exact tended_fire h n
  | arrange due => exact tended_arrange h hk due
  | takeBack n hn => exact tended_takeBack h hk hn
  | remove => exact tended_remove h hk

end Turns

/-! ## Nothing is arranged for the message -/

section Bare

variable {s s' : State}

theorem fire_events (h : ∀ n r, s.reactions.get? n = some r → r.messageId ≠ messageId) (n : Nat) :
    ((s.fire n).loadingOf messageId emoji).events = (s.loadingOf messageId emoji).events := by
  cases hw : s.waiting? n with
  | none => rw [State.fire_of_not_waiting hw]
  | some r =>
    have hm : r.messageId ≠ messageId := h n r (waiting?_eq_some hw).1
    rw [State.fire_of_waiting hw]
    exact Output.present_filter _ _ _ (by simp [OutputEvent.isLoading, hm])

/-- A turn of a run for another message shows and removes nothing on this one. -/
theorem Turn.events {m : String} {c c' : Charge} (ht : Turn m emoji c s c' s') (hm : m ≠ messageId)
    (h : ∀ n r, s.reactions.get? n = some r → r.messageId ≠ messageId) :
    (s'.loadingOf messageId emoji).events = (s.loadingOf messageId emoji).events := by
  cases ht with
  | apart hs => rw [loadingOf_eq, hs, ← loadingOf_eq]
  | fire n => exact fire_events h n
  | arrange due => rfl
  | takeBack n hn => rfl
  | remove => exact Output.present_filter _ _ _ (by simp [OutputEvent.isLoading, hm])

end Bare

end ChatBot
