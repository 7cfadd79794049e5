/-
  ChatBot.Proofs.Registry.Suggestion — which name is suggested for an unknown one.

  The names of the visible commands are looked at in the order in which commands are registered
  and declare them, and a later name has to be nearer to take the place of an earlier one. So
  the fold over them keeps the first of the nearest (`foldl_cheaper`), if that is at most two
  edits away.

  Proved: `suggest_nearest`, for every registry and every input, with what an edit is.
-/
import Mathlib.Data.List.MinMax
import ChatBot.Proofs.Registry.Listing
import ChatBot.Proofs.Text.EditDistance

namespace ChatBot

open Text

/-! ## The first of the cheapest items -/

section Cheapest

variable {α : Type} (f : α → Nat) (limit : Nat)

/-- An item with its cost, when that is within the limit. -/
def within (a : α) : Option (α × Nat) := if f a ≤ limit then some (a, f a) else none

/-- The best item so far, or the next one if it is cheaper and within the limit. -/
def cheaper : Option (α × Nat) → α → Option (α × Nat)
  | none, a => within f limit a
  | some best, a => if f a ≤ limit ∧ f a < best.2 then some (a, f a) else some best

variable {f : α → Nat} {limit : Nat} {l : List α} {a : α}

theorem cheaper_within (best a : α) :
    cheaper f limit (within f limit best) a = within f limit (if f a < f best then a else best) := by
  by_cases hcheaper : f a < f best
  · rw [if_pos hcheaper, within, within]
    by_cases hbest : f best ≤ limit
    · have hnext : f a ≤ limit := by omega
      rw [if_pos hbest, if_pos hnext]
      exact if_pos ⟨hnext, hcheaper⟩
    · rw [if_neg hbest]
      rfl
  · rw [if_neg hcheaper, within]
    by_cases hbest : f best ≤ limit
    · rw [if_pos hbest]
      exact if_neg fun h => hcheaper h.2
    · have hnext : ¬ f a ≤ limit := by omega
      rw [if_neg hbest]
      exact if_neg hnext

/-- An item has to be cheaper to take the place of an earlier one, so the first of the cheapest is kept. -/
theorem foldl_cheaper (l : List α) : l.foldl (cheaper f limit) none = (l.argmin f).bind (within f limit) := by
  induction l using List.reverseRecOn with
  | nil => rfl
  | append_singleton l a ih =>
    rw [List.foldl_append, List.foldl_cons, List.foldl_nil, ih, List.argmin_concat]
    cases l.argmin f with
    | none => rfl
    | some best =>
      refine (cheaper_within best a).trans ?_
      dsimp only
      split <;> rfl

theorem foldl_cheaper_eq_some :
    (l.foldl (cheaper f limit) none).map Prod.fst = some a ↔ l.argmin f = some a ∧ f a ≤ limit := by
  rw [foldl_cheaper]
  cases l.argmin f with
  | none => simp
  | some best =>
    rw [Option.bind_some, within, Option.some.injEq]
    by_cases hbest : f best ≤ limit
    · rw [if_pos hbest, Option.map_some, Option.some.injEq]
      exact ⟨fun h => ⟨h, h ▸ hbest⟩, And.left⟩
    · rw [if_neg hbest]
      exact iff_of_false (fun h => by cases h) fun ⟨h, ha⟩ => hbest (h ▸ ha)

theorem foldl_cheaper_eq_none : (l.foldl (cheaper f limit) none).map Prod.fst = none ↔ ∀ a ∈ l, limit < f a := by
  constructor
  · intro hnone a ha
    cases hbest : l.argmin f with
    | none =>
      rw [List.argmin_eq_none.mp hbest] at ha
      cases ha
    | some best =>
      -- the cheapest item would be kept
      have hfar : ¬ f best ≤ limit := fun hnear => by
        rw [foldl_cheaper_eq_some.mpr ⟨hbest, hnear⟩] at hnone
        cases hnone
      have hle := List.le_of_mem_argmin ha hbest
      omega
  · intro hfar
    refine Option.eq_none_iff_forall_ne_some.mpr fun a ha => ?_
    obtain ⟨hbest, hnear⟩ := foldl_cheaper_eq_some.mp ha
    have hlimit := hfar a (List.argmin_mem hbest)
    omega

end Cheapest

namespace Registry

variable {r : Registry} {typed s : String}

/-! ## Suggestions -/

/-- Names cost the edits that lead to them. -/
theorem nearer_eq (typed : String) : nearer typed = cheaper (edits typed) 2 := by
  funext best name
  cases best with
  | none => exact nearer_none typed name
  | some best => exact nearer_some typed name best

theorem suggest_eq_none : r.suggest typed = none ↔ ∀ m, r.ShownName m → 2 < edits typed m := by
  simp only [suggest, nearer_eq, foldl_cheaper_eq_none, ← mem_visibleNames]

theorem suggest_eq_some_iff : r.suggest typed = some s ↔ r.ShownName s ∧ edits typed s ≤ 2 ∧
    ∀ m, r.ShownName m → edits typed s ≤ edits typed m ∧
      (edits typed m = edits typed s → r.visibleNames.idxOf s ≤ r.visibleNames.idxOf m) := by
  simp only [suggest, nearer_eq, foldl_cheaper_eq_some, ← mem_visibleNames, List.argmin_eq_some_iff]
  constructor
  · rintro ⟨⟨hmem, hleast, hfirst⟩, hnear⟩
    exact ⟨hmem, hnear, fun m hm => ⟨hleast m hm, fun hsame => hfirst m hm (Nat.le_of_eq hsame)⟩⟩
  · rintro ⟨hmem, hnear, hbest⟩
    refine ⟨⟨hmem, fun m hm => (hbest m hm).1, fun m hm hle => ?_⟩, hnear⟩
    exact (hbest m hm).2 (Nat.le_antisymm hle (hbest m hm).1)

/-- The distance of two texts is the least number of single-character edits that turn one into
    the other. Of the names of visible top-level commands the one is suggested that is nearest
    to what was typed, both in lowercase, and the first of several; none exactly when all of
    them are more than two edits away. -/
theorem suggest_nearest :
    (∀ a b : String, IsLeast {n | EditsTo n a.toList b.toList} (editDistance a.toList b.toList)) ∧
      ∀ (r : Registry) (typed : String),
        (r.suggest typed = none ↔ ∀ m, r.ShownName m → 2 < edits typed m) ∧
        ∀ s, r.suggest typed = some s ↔ r.ShownName s ∧ edits typed s ≤ 2 ∧
          ∀ m, r.ShownName m → edits typed s ≤ edits typed m ∧
            (edits typed m = edits typed s → r.visibleNames.idxOf s ≤ r.visibleNames.idxOf m) :=
  ⟨fun a b => isLeast_editDistance a.toList b.toList, fun _ _ => ⟨suggest_eq_none, fun _ => suggest_eq_some_iff⟩⟩

end Registry

end ChatBot
