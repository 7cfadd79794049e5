/-
  ChatBot.Proofs.Steps — what a computation does step by step, whatever others do to the
  state between its steps.

  (1) `Keeps f x`: no step of `x` changes `f` of the state, and `x` leaves no mark.
  (2) `Adds count Q t x`: with `t` added to a count before, `x` ends with a result and an
      amount added in all for which `Q` holds. It is the weakest such claim, so `x >>= k`
      adds what `x` and then `k` add (`adds_bind`).
  (3) `watch`: what a watcher has seen when `x` ends. One who adds up how a count changes
      sees what `x` adds (`Adds.watch`). `Sees w I Q t x`: after `t`, whatever a watcher
      sees of `x` in states of `I`, `Q` holds of it and of the result (`Sees.watch`).
      `Within I Q x`: `x` leaves the states of `I` never, and `Q` holds of its result.
  (4) `Matches R Q x y`: from states that `R` relates, `x` and `y` go step by step through
      states that it relates, and end with results that `Q` relates.
  (5) `Follows move Q t x`: who stands at `t` in a protocol can account for every step of `x`
      by a move of the protocol, and `Q` holds of where they stand in the end and of the
      result.
-/
import Mathlib.Algebra.Group.Basic
import ChatBot.Pipeline.Steps

namespace ChatBot.Steps

variable {σ μ α β γ δ τ : Type}

/-! ## (1) what a computation keeps -/

def Keeps (f : σ → γ) : Steps σ μ α → Prop
  | .done _ => True
  | .step change next => (∀ s, f (change s) = f s) ∧ ∀ s, (next s).Keeps f
  | .mark _ _ => False

variable {f : σ → γ} {x : Steps σ μ α}

theorem Keeps.run (h : x.Keeps f) (s : σ) : f (x.run s).2 = f s := by
  induction x generalizing s with
  | done a => rfl
  | step change next ih => exact (ih s (h.2 s) (change s)).trans (h.1 s)
  | mark entry next => exact h.elim

theorem Keeps.marks (h : x.Keeps f) (s : σ) : x.marks s = [] := by
  induction x generalizing s with
  | done a => rfl
  | step change next ih => exact ih s (h.2 s) (change s)
  | mark entry next => exact h.elim

/-- What is quiet is passed over. -/
theorem Keeps.marks_bind (h : x.Keeps f) (k : α → Steps σ μ β) (s : σ) :
    (x >>= k).marks s = (k (x.run s).1).marks (x.run s).2 := by
  rw [Steps.marks_bind, h.marks, List.nil_append]

theorem Keeps.comp (h : x.Keeps f) (g : γ → δ) : x.Keeps fun s => g (f s) := by
  induction x with
  | done a => trivial
  | step change next ih => exact ⟨fun s => congrArg g (h.1 s), fun s => ih s (h.2 s)⟩
  | mark entry next => exact h.elim

theorem Keeps.bind {k : α → Steps σ μ β} (h : x.Keeps f) (hk : ∀ a, (k a).Keeps f) : (x >>= k).Keeps f := by
  induction x with
  | done a => exact hk a
  | step change next ih => exact ⟨h.1, fun s => ih s (h.2 s)⟩
  | mark entry next => exact h.elim

theorem keeps_done (a : α) : (.done a : Steps σ μ α).Keeps f := trivial

theorem keeps_get : (get : Steps σ μ σ).Keeps f := ⟨fun _ => rfl, fun _ => trivial⟩

theorem keeps_modifyGet {g : σ → α × σ} (h : ∀ s, f (g s).2 = f s) :
    (MonadStateOf.modifyGet g : Steps σ μ α).Keeps f :=
  ⟨h, fun _ => trivial⟩

theorem keeps_modify {g : σ → σ} (h : ∀ s, f (g s) = f s) : (modify g : Steps σ μ PUnit).Keeps f :=
  ⟨h, fun _ => trivial⟩

theorem keeps_forM {l : List β} {k : β → Steps σ μ PUnit} (h : ∀ b ∈ l, (k b).Keeps f) : (l.forM k).Keeps f := by
  induction l with
  | nil => trivial
  | cons b l ih =>
    exact (h b List.mem_cons_self).bind fun _ => ih fun c hc => h c (List.mem_cons_of_mem b hc)

/-! ## (2) what a computation adds to a count -/

section Adds

variable [AddCommMonoid τ] (count : σ → τ)

def Adds (Q : τ → α → Prop) : τ → Steps σ μ α → Prop
  | t, .done a => Q t a
  | t, .step change next => ∀ s, ∃ d, count (change s) = count s + d ∧ (next s).Adds Q (t + d)
  | t, .mark _ next => next.Adds Q t

variable {count} {Q Q' : τ → α → Prop} {t : τ}

theorem adds_bind {k : α → Steps σ μ β} {Q : τ → β → Prop} :
    (x >>= k).Adds count Q t ↔ x.Adds count (fun u a => (k a).Adds count Q u) t := by
  induction x generalizing t with
  | done a => rfl
  | step change next ih =>
    exact forall_congr' fun s => exists_congr fun d => and_congr_right fun _ => ih s
  | mark entry next ih => exact ih

theorem adds_map {g : α → β} {Q : τ → β → Prop} : (g <$> x).Adds count Q t ↔ x.Adds count (fun u a => Q u (g a)) t := by
  rw [map_eq_pure_bind]
  exact adds_bind

theorem Adds.mono (h : x.Adds count Q t) (hQ : ∀ u a, Q u a → Q' u a) : x.Adds count Q' t := by
  induction x generalizing t with
  | done a => exact hQ t a h
  | step change next ih =>
    intro s
    obtain ⟨d, hd, hn⟩ := h s
    exact ⟨d, hd, ih s hn⟩
  | mark entry next ih => exact ih h

theorem Keeps.adds (h : x.Keeps count) (hQ : ∀ a, Q t a) : x.Adds count Q t := by
  induction x with
  | done a => exact hQ a
  | step change next ih => exact fun s => ⟨0, by rw [h.1 s, add_zero], by rw [add_zero]; exact ih s (h.2 s)⟩
  | mark entry next => exact h.elim

theorem adds_modify {g : σ → σ} {d : τ} {Q : τ → PUnit → Prop} (h : ∀ s, count (g s) = count s + d)
    (hQ : Q (t + d) ⟨⟩) : (modify g : Steps σ μ PUnit).Adds count Q t :=
  fun s => ⟨d, h s, hQ⟩

end Adds

/-! ## (3) what a watcher sees -/

/-- Somebody who looks on: what a step, made in a state, and a mark add to what was seen. -/
structure Watcher (σ μ τ : Type) where
  step : (σ → σ) → σ → τ → τ
  mark : μ → τ → τ

/-- What was seen in the end and the result, when others change the state before each step. -/
def watch (w : Watcher σ μ τ) (others : Nat → σ → σ) : Nat → τ → Steps σ μ α → σ → τ × α
  | _, t, .done a, _ => (t, a)
  | n, t, .step change next, s =>
    watch w others (n + 1) (w.step change (others n s) t) (next (others n s)) (change (others n s))
  | n, t, .mark entry next, s => watch w others n (w.mark entry t) next s

/-- The result is that of the steps with nothing between them. -/
theorem watch_alone (w : Watcher σ μ τ) (x : Steps σ μ α) (n : Nat) (t : τ) (s : σ) :
    (x.watch w (fun _ s => s) n t s).2 = (x.run s).1 := by
  induction x generalizing n t s with
  | done a => rfl
  | step change next ih => exact ih s (n + 1) _ (change s)
  | mark entry next ih => exact ih n _ s

theorem watch_map (w : Watcher σ μ τ) (others : Nat → σ → σ) (g : α → β) (x : Steps σ μ α) (n : Nat) (t : τ) (s : σ) :
    (g <$> x).watch w others n t s = ((x.watch w others n t s).1, g (x.watch w others n t s).2) := by
  rw [map_eq_pure_bind]
  induction x generalizing n t s with
  | done a => rfl
  | step change next ih => exact ih _ (n + 1) _ _
  | mark entry next ih => exact ih n _ s

/-- Adds up how the steps change a count. -/
def Watcher.sum [Add τ] [Sub τ] (count : σ → τ) : Watcher σ μ τ where
  step change s t := t + (count (change s) - count s)
  mark _ t := t

/-- What is added in all is what a watcher adds up, whatever others do. -/
theorem Adds.watch [AddCommMonoid τ] [Sub τ] (hsub : ∀ a d : τ, a + d - a = d) {count : σ → τ} {Q : τ → α → Prop}
    {x : Steps σ μ α} {t : τ} (h : x.Adds count Q t) (others : Nat → σ → σ) (n : Nat) (s : σ) :
    Q (x.watch (.sum count) others n t s).1 (x.watch (.sum count) others n t s).2 := by
  induction x generalizing n t s with
  | done a => exact h
  | step change next ih =>
    obtain ⟨d, hd, hn⟩ := h (others n s)
    have hstep : t + (count (change (others n s)) - count (others n s)) = t + d := by rw [hd, hsub]
    rw [← hstep] at hn
    exact ih (others n s) hn (n + 1) (change (others n s))
  | mark entry next ih => exact ih h n s

section Sees

variable (w : Watcher σ μ τ) (I : σ → Prop)

def Sees (Q : τ → α → Prop) : τ → Steps σ μ α → Prop
  | t, .done a => Q t a
  | t, .step change next => ∀ s, I s → I (change s) ∧ (next s).Sees Q (w.step change s t)
  | t, .mark entry next => next.Sees Q (w.mark entry t)

variable {w I} {Q Q' : τ → α → Prop} {t : τ}

theorem sees_bind {k : α → Steps σ μ β} {Q : τ → β → Prop} :
    (x >>= k).Sees w I Q t ↔ x.Sees w I (fun u a => (k a).Sees w I Q u) t := by
  induction x generalizing t with
  | done a => rfl
  | step change next ih => exact forall_congr' fun s => imp_congr_right fun _ => and_congr_right fun _ => ih s
  | mark entry next ih => exact ih

theorem Sees.mono (h : x.Sees w I Q t) (hQ : ∀ u a, Q u a → Q' u a) : x.Sees w I Q' t := by
  induction x generalizing t with
  | done a => exact hQ t a h
  | step change next ih => exact fun s hs => ⟨(h s hs).1, ih s (h s hs).2⟩
  | mark entry next ih => exact ih h

/-- Steps that keep `f` show a watcher nothing, who sees nothing in such steps. -/
theorem Keeps.sees (h : x.Keeps f)
    (hw : ∀ change, (∀ s, f (change s) = f s) → ∀ s, I s → I (change s) ∧ w.step change s t = t) (hQ : ∀ a, Q t a) :
    x.Sees w I Q t := by
  induction x with
  | done a => exact hQ a
  | step change next ih =>
    intro s hs
    obtain ⟨hI, ht⟩ := hw change h.1 s hs
    exact ⟨hI, ht.symm ▸ ih s (h.2 s)⟩
  | mark entry next => exact h.elim

theorem Sees.watch (h : x.Sees w I Q t) {others : Nat → σ → σ} (ho : ∀ n s, I s → I (others n s)) {s : σ} (hs : I s)
    (n : Nat) : Q (x.watch w others n t s).1 (x.watch w others n t s).2 := by
  induction x generalizing n t s with
  | done a => exact h
  | step change next ih =>
    obtain ⟨hI, hn⟩ := h (others n s) (ho n s hs)
    exact ih _ hn hI (n + 1)
  | mark entry next ih => exact ih h hs n

end Sees

section Within

/-- Somebody who does not look. -/
def Watcher.blind : Watcher σ μ Unit := ⟨fun _ _ t => t, fun _ t => t⟩

/-- From states of `I`, every step leads to such states, and `Q` holds of the result. -/
def Within (I : σ → Prop) (Q : α → Prop) (x : Steps σ μ α) : Prop := x.Sees .blind I (fun _ => Q) ()

variable {I : σ → Prop} {Q Q' : α → Prop}

theorem within_bind {k : α → Steps σ μ β} {Q : β → Prop} :
    (x >>= k).Within I Q ↔ x.Within I fun a => (k a).Within I Q :=
  sees_bind

theorem Within.mono (h : x.Within I Q) (hQ : ∀ a, Q a → Q' a) : x.Within I Q' := Sees.mono h fun _ => hQ

theorem Keeps.within (h : x.Keeps f) (hI : ∀ s s', f s' = f s → I s → I s') (hQ : ∀ a, Q a) : x.Within I Q :=
  h.sees (fun change hchange s hs => ⟨hI s (change s) (hchange s) hs, rfl⟩) hQ

theorem within_done {a : α} (h : Q a) : (.done a : Steps σ μ α).Within I Q := h

theorem within_tell {Q : Unit → Prop} (entry : μ) (h : Q ()) : (tell entry : Steps σ μ Unit).Within I Q := h

theorem within_modifyGet {g : σ → α × σ} (h : ∀ s, I s → I (g s).2 ∧ Q (g s).1) :
    (MonadStateOf.modifyGet g : Steps σ μ α).Within I Q :=
  h

theorem Within.run (h : x.Within I Q) {s : σ} (hs : I s) : I (x.run s).2 ∧ Q (x.run s).1 := by
  induction x generalizing s with
  | done a => exact ⟨hs, h⟩
  | step change next ih => exact ih s (h s hs).2 (h s hs).1
  | mark entry next ih => exact ih h hs

end Within

/-! ## (4) two computations side by side -/

section Matches

variable {α' β' : Type}

inductive Matches (R : σ → σ → Prop) (Q : α → β → Prop) : Steps σ μ α → Steps σ μ β → Prop
  | done {a : α} {b : β} : Q a b → Matches R Q (.done a) (.done b)
  | step {change change' : σ → σ} {next : σ → Steps σ μ α} {next' : σ → Steps σ μ β} :
    (∀ s t, R s t → R (change s) (change' t)) → (∀ s t, R s t → Matches R Q (next s) (next' t)) →
    Matches R Q (.step change next) (.step change' next')
  | mark {entry entry' : μ} {next : Steps σ μ α} {next' : Steps σ μ β} :
    Matches R Q next next' → Matches R Q (.mark entry next) (.mark entry' next')

variable {R : σ → σ → Prop} {Q : α → β → Prop} {y : Steps σ μ β}

theorem matches_bind {P : α' → β' → Prop} {x : Steps σ μ α'} {y : Steps σ μ β'} {k : α' → Steps σ μ α}
    {l : β' → Steps σ μ β} (h : x.Matches R P y) (hk : ∀ a b, P a b → (k a).Matches R Q (l b)) :
    (x >>= k).Matches R Q (y >>= l) := by
  induction h with
  | done hab => exact hk _ _ hab
  | step hchange _ ih => exact .step hchange ih
  | mark _ ih => exact .mark ih

/-- Both have ended, or neither has. -/
theorem Matches.result? (h : x.Matches R Q y) : Option.Rel Q x.result? y.result? := by
  cases h with
  | done hab => exact .some hab
  | step _ _ => exact .none
  | mark _ => exact .none

theorem matches_tell (entry entry' : μ) : (tell entry : Steps σ μ Unit).Matches R Eq (tell entry') := .mark (.done rfl)

theorem matches_get : (get : Steps σ μ σ).Matches R R get := .step (fun _ _ hst => hst) fun _ _ hst => .done hst

theorem matches_modifyGet {f : σ → α × σ} {g : σ → β × σ} (h : ∀ s t, R s t → Q (f s).1 (g t).1 ∧ R (f s).2 (g t).2) :
    (MonadStateOf.modifyGet f : Steps σ μ α).Matches R Q (MonadStateOf.modifyGet g) :=
  .step (fun s t hst => (h s t hst).2) fun s t hst => .done (h s t hst).1

theorem matches_modify {f g : σ → σ} (h : ∀ s t, R s t → R (f s) (g t)) :
    (modify f : Steps σ μ PUnit).Matches R Eq (modify g) :=
  .step h fun _ _ _ => .done rfl

theorem matches_forM {l : List γ} {k k' : γ → Steps σ μ PUnit} (h : ∀ c ∈ l, (k c).Matches R Eq (k' c)) :
    (l.forM k).Matches R Eq (l.forM k') := by
  induction l with
  | nil => exact .done rfl
  | cons c l ih =>
    exact matches_bind (h c List.mem_cons_self) fun _ _ _ => ih fun d hd => h d (List.mem_cons_of_mem c hd)

end Matches

/-! ## (5) the protocol that a computation follows -/

section Follows

/-- `move t s u s'`: who stands at `t` may make `s'` of `s`, and stands at `u` then. -/
def Follows (move : τ → σ → τ → σ → Prop) (Q : τ → α → Prop) : τ → Steps σ μ α → Prop
  | t, .done a => Q t a
  | t, .step change next => ∀ s, ∃ u, move t s u (change s) ∧ (next s).Follows move Q u
  | t, .mark _ next => next.Follows move Q t

variable {move : τ → σ → τ → σ → Prop} {Q Q' : τ → α → Prop} {t : τ}

theorem follows_bind {k : α → Steps σ μ β} {Q : τ → β → Prop} :
    (x >>= k).Follows move Q t ↔ x.Follows move (fun u a => (k a).Follows move Q u) t := by
  induction x generalizing t with
  | done a => rfl
  | step change next ih =>
    exact forall_congr' fun s => exists_congr fun u => and_congr_right fun _ => ih s
  | mark entry next ih => exact ih

theorem Follows.mono (h : x.Follows move Q t) (hQ : ∀ u a, Q u a → Q' u a) : x.Follows move Q' t := by
  induction x generalizing t with
  | done a => exact hQ t a h
  | step change next ih =>
    intro s
    obtain ⟨u, hu, hn⟩ := h s
    exact ⟨u, hu, ih s hn⟩
  | mark entry next ih => exact ih h

theorem follows_modifyGet {g : σ → α × σ} (h : ∀ s, ∃ u, move t s u (g s).2 ∧ Q u (g s).1) :
    (MonadStateOf.modifyGet g : Steps σ μ α).Follows move Q t :=
  h

/-- Nothing that `x` does changes where one stands. -/
def Stays (move : τ → σ → τ → σ → Prop) (t : τ) (x : Steps σ μ α) : Prop := x.Follows move (fun u _ => u = t) t

theorem Stays.follows (h : x.Stays move t) (hQ : ∀ a, Q t a) : x.Follows move Q t := by
  refine Follows.mono h fun u a hu => ?_
  rw [hu]
  exact hQ a

theorem Stays.bind {k : α → Steps σ μ β} (h : x.Stays move t) (hk : ∀ a, (k a).Stays move t) :
    (x >>= k).Stays move t :=
  follows_bind.mpr (h.follows hk)

theorem stays_done (a : α) : (.done a : Steps σ μ α).Stays move t := rfl

theorem stays_tell (entry : μ) : (tell entry : Steps σ μ Unit).Stays move t := rfl

theorem stays_modify {g : σ → σ} (h : ∀ s, move t s t (g s)) : (modify g : Steps σ μ PUnit).Stays move t :=
  fun s => ⟨t, h s, rfl⟩

theorem stays_forM {l : List β} {k : β → Steps σ μ PUnit} (h : ∀ b ∈ l, (k b).Stays move t) :
    (l.forM k).Stays move t := by
  induction l with
  | nil => exact stays_done _
  | cons b l ih =>
    have hl : (l.forM k).Stays move t := ih fun c hc => h c (List.mem_cons_of_mem b hc)
    exact (h b List.mem_cons_self).bind fun _ => hl

/-- Steps that keep `f` change nothing for a protocol that is only about `f`. -/
theorem Keeps.stays (h : x.Keeps f) (hmove : ∀ s s', f s' = f s → move t s t s') : x.Stays move t := by
  induction x with
  | done a => exact stays_done a
  | step change next ih =>
    intro s
    exact ⟨t, hmove s (change s) (h.1 s), ih s (h.2 s)⟩
  | mark entry next => exact h.elim

end Follows

end ChatBot.Steps
