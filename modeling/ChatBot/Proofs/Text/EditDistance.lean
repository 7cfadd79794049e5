/-
  ChatBot.Proofs.Text.EditDistance — the distance of two texts is the least number of edits.

  An edit inserts, removes or replaces one character anywhere in a text (`Edit`), and edits
  may come in any order and undo each other (`EditsTo`). Written side by side from the first
  character on, two texts need no more of them (`exists_aligned`), and what is aligned is
  reached by as many edits (`Aligned.editsTo`). So distances can be counted character by
  character: the entry of a row is the least cost of aligning what was read of the one text
  with what was read of the other, both from the character read last (`Row`), and the next
  row follows from the row above (`Row.next`).

  Proved: `isLeast_editDistance`, for any two texts.
-/
import Mathlib.Order.Bounds.Defs
import ChatBot.Text.EditDistance

namespace ChatBot.Text

/-- One character is inserted, removed or replaced. -/
inductive Edit : List Char → List Char → Prop
  | insert (front back : List Char) (c : Char) : Edit (front ++ back) (front ++ c :: back)
  | remove (front back : List Char) (c : Char) : Edit (front ++ c :: back) (front ++ back)
  | replace (front back : List Char) (c d : Char) : Edit (front ++ c :: back) (front ++ d :: back)

/-- So many edits, one after another, turn the first text into the second. -/
inductive EditsTo : Nat → List Char → List Char → Prop
  | none (a : List Char) : EditsTo 0 a a
  | edit {n : Nat} {a b c : List Char} : Edit a b → EditsTo n b c → EditsTo (n + 1) a c

/-- The two texts side by side: what it costs that characters stand alone, or beside another
    one than themselves. -/
inductive Aligned : Nat → List Char → List Char → Prop
  | nil : Aligned 0 [] []
  | remove {n : Nat} {a b : List Char} (c : Char) : Aligned n a b → Aligned (n + 1) (c :: a) b
  | insert {n : Nat} {a b : List Char} (d : Char) : Aligned n a b → Aligned (n + 1) a (d :: b)
  | pair {n : Nat} {a b : List Char} (c d : Char) : Aligned n a b →
    Aligned (n + if c = d then 0 else 1) (c :: a) (d :: b)

variable {n corner left : Nat} {a b x y done columns : List Char} {c d : Char} {row above : List Nat}

/-! ## Edits -/

theorem Edit.cons (h : Edit a b) (c : Char) : Edit (c :: a) (c :: b) := by
  cases h with
  | insert front back d => exact .insert (c :: front) back d
  | remove front back d => exact .remove (c :: front) back d
  | replace front back d e => exact .replace (c :: front) back d e

theorem EditsTo.cons (h : EditsTo n a b) (c : Char) : EditsTo n (c :: a) (c :: b) := by
  induction h with
  | none a => exact .none _
  | edit hedit _ ih => exact .edit (hedit.cons c) ih

theorem Edit.reverse (h : Edit a b) : Edit a.reverse b.reverse := by
  cases h with
  | insert front back c => simpa using Edit.insert back.reverse front.reverse c
  | remove front back c => simpa using Edit.remove back.reverse front.reverse c
  | replace front back c d => simpa using Edit.replace back.reverse front.reverse c d

theorem EditsTo.reverse (h : EditsTo n a b) : EditsTo n a.reverse b.reverse := by
  induction h with
  | none a => exact .none _
  | edit hedit _ ih => exact .edit hedit.reverse ih

/-- What is aligned is reached by as many edits. -/
theorem Aligned.editsTo (h : Aligned n a b) : EditsTo n a b := by
  induction h with
  | nil => exact .none []
  | @remove n a b c _ ih => exact .edit (.remove [] a c) ih
  | @insert n a b d _ ih => exact .edit (.insert [] a d) (ih.cons d)
  | @pair n a b c d _ ih =>
    split
    · rename_i hcd
      rw [hcd]
      exact ih.cons d
    · exact .edit (.replace [] a c d) (ih.cons d)

/-! ## An edit costs at most one -/

theorem aligned_self (a : List Char) : Aligned 0 a a := by
  induction a with
  | nil => exact .nil
  | cons c a ih => simpa using ih.pair c c

/-- Without its first character a text costs at most one more. -/
theorem Aligned.tail (h : Aligned n (c :: x) b) : ∃ m ≤ n + 1, Aligned m x b := by
  generalize ha : c :: x = a at h
  induction h with
  | nil => cases ha
  | @remove n _ _ _ h =>
    cases ha
    exact ⟨n, by omega, h⟩
  | @insert n _ _ d _ ih =>
    obtain ⟨m, hm, h⟩ := ih ha
    exact ⟨m + 1, by omega, h.insert d⟩
  | @pair n _ _ _ d h =>
    cases ha
    exact ⟨n + 1, by omega, h.insert d⟩

/-- With another first character a text costs at most one more. -/
theorem Aligned.replaceHead (h : Aligned n (d :: x) b) (c : Char) : ∃ m ≤ n + 1, Aligned m (c :: x) b := by
  generalize ha : d :: x = a at h
  induction h with
  | nil => cases ha
  | @remove n _ _ _ h =>
    cases ha
    exact ⟨n + 1, by omega, h.remove c⟩
  | @insert n _ _ e _ ih =>
    obtain ⟨m, hm, h⟩ := ih ha
    exact ⟨m + 1, by omega, h.insert e⟩
  | @pair n _ _ _ e h =>
    cases ha
    refine ⟨_, ?_, h.pair c e⟩
    split <;> omega

/-- Where one text costs at most one more than another, so it does behind the same character. -/
theorem Aligned.cons_of_tail (near : ∀ {n b}, Aligned n y b → ∃ m ≤ n + 1, Aligned m x b) (h : Aligned n (c :: y) b) :
    ∃ m ≤ n + 1, Aligned m (c :: x) b := by
  generalize ha : c :: y = a at h
  induction h with
  | nil => cases ha
  | @remove n _ _ _ h =>
    cases ha
    obtain ⟨m, hm, h⟩ := near h
    exact ⟨m + 1, by omega, h.remove c⟩
  | @insert n _ _ e _ ih =>
    obtain ⟨m, hm, h⟩ := ih ha
    exact ⟨m + 1, by omega, h.insert e⟩
  | @pair n _ _ _ e h =>
    cases ha
    obtain ⟨m, hm, h⟩ := near h
    exact ⟨_, by omega, h.pair c e⟩

theorem Aligned.append_of_tail (near : ∀ {n b}, Aligned n y b → ∃ m ≤ n + 1, Aligned m x b) (front : List Char)
    (h : Aligned n (front ++ y) b) : ∃ m ≤ n + 1, Aligned m (front ++ x) b := by
  induction front generalizing n b with
  | nil => exact near h
  | cons c front ih => exact cons_of_tail ih h

theorem Edit.aligned (h : Edit x y) (haligned : Aligned n y b) : ∃ m ≤ n + 1, Aligned m x b := by
  cases h with
  | insert front back c => exact haligned.append_of_tail (fun h => h.tail) front
  | remove front back c => exact haligned.append_of_tail (fun h => ⟨_, Nat.le_refl _, h.remove c⟩) front
  | replace front back c d => exact haligned.append_of_tail (fun h => h.replaceHead c) front

/-- What edits reach in any order is aligned at no more than their number. -/
theorem exists_aligned (h : EditsTo n a b) : ∃ m ≤ n, Aligned m a b := by
  induction h with
  | none a => exact ⟨0, Nat.le_refl 0, aligned_self a⟩
  | edit hedit _ ih =>
    obtain ⟨m, hm, haligned⟩ := ih
    obtain ⟨m', hm', haligned'⟩ := hedit.aligned haligned
    exact ⟨m', by omega, haligned'⟩

/-! ## The least cost, character by character -/

/-- The least cost at which two texts are aligned. -/
abbrev LeastCost (a b : List Char) (n : Nat) : Prop := IsLeast {n | Aligned n a b} n

theorem aligned_nil : Aligned n [] b ↔ n = b.length := by
  induction b generalizing n with
  | nil =>
    constructor
    · rintro ⟨⟩
      rfl
    · rintro rfl
      exact .nil
  | cons d b ih =>
    constructor
    · intro h
      cases h with
      | insert _ h => rw [ih.mp h, List.length_cons]
    · rintro rfl
      exact (ih.mpr rfl).insert d

theorem leastCost_nil (b : List Char) : LeastCost [] b b.length :=
  ⟨aligned_nil.mpr rfl, fun _ h => Nat.le_of_eq (aligned_nil.mp h).symm⟩

theorem LeastCost.cons_nil (h : LeastCost a [] n) (c : Char) : LeastCost (c :: a) [] (n + 1) := by
  refine ⟨h.1.remove c, fun m hm => ?_⟩
  cases hm with
  | remove _ hm => exact Nat.succ_le_succ (h.2 hm)

/-- The last of the edits removes the one character, inserts the other, or pairs them. -/
theorem LeastCost.cons_cons {up : Nat} (hup : LeastCost a (d :: b) up) (hleft : LeastCost (c :: a) b left)
    (hcorner : LeastCost a b corner) :
    LeastCost (c :: a) (d :: b) (min (min (up + 1) (left + 1)) (corner + if c = d then 0 else 1)) := by
  have hremove := hup.1.remove c
  have hinsert := hleft.1.insert d
  have hpair := hcorner.1.pair c d
  constructor
  · change Aligned _ (c :: a) (d :: b)
    rcases Std.min_eq_or (a := min (up + 1) (left + 1)) (b := corner + if c = d then 0 else 1) with hmin | hmin
    · rcases Std.min_eq_or (a := up + 1) (b := left + 1) with hmin' | hmin' <;> rwa [hmin, hmin']
    · rwa [hmin]
  · intro m hm
    cases hm with
    | remove _ h =>
      have hle := hup.2 h
      omega
    | insert _ h =>
      have hle := hleft.2 h
      omega
    | pair _ _ h =>
      have hle := hcorner.2 h
      omega

/-! ## Rows -/

/-- The entries are the least costs of aligning `a` with `done` and more and more of the columns. -/
inductive Row (a : List Char) : (done columns : List Char) → List Nat → Prop
  | nil {done : List Char} : Row a done [] []
  | cons {n : Nat} {d : Char} {done columns : List Char} {row : List Nat} :
    LeastCost a (d :: done) n → Row a (d :: done) columns row → Row a done (d :: columns) (n :: row)

/-- A row with its first entry, in which none of the columns is read. -/
inductive FullRow (a columns : List Char) : List Nat → Prop
  | mk {corner : Nat} {above : List Nat} : LeastCost a [] corner → Row a [] columns above → FullRow a columns (corner :: above)

theorem Row.next (h : Row a done columns above) (c : Char) (hcorner : LeastCost a done corner)
    (hleft : LeastCost (c :: a) done left) : Row (c :: a) done columns (nextRow c corner left above columns) := by
  induction h generalizing corner left with
  | nil => exact .nil
  | cons hup _ ih =>
    have hentry := hup.cons_cons hleft hcorner
    exact .cons hentry (ih hup hentry)

theorem FullRow.step (h : FullRow a columns row) (c : Char) : FullRow (c :: a) columns (stepRow columns row c) := by
  cases h with
  | mk hcorner habove =>
    have hleft := hcorner.cons_nil c
    exact .mk hleft (habove.next c hcorner hleft)

theorem FullRow.foldl (h : FullRow done columns row) (a : List Char) :
    FullRow (a.reverse ++ done) columns (a.foldl (stepRow columns) row) := by
  induction a generalizing done row with
  | nil => exact h
  | cons c a ih =>
    rw [List.reverse_cons, List.append_assoc, List.singleton_append]
    exact ih (h.step c)

theorem row_nil (done columns : List Char) : Row [] done columns (List.range' (done.length + 1) columns.length) := by
  induction columns generalizing done with
  | nil => exact .nil
  | cons d columns ih => exact .cons (leastCost_nil (d :: done)) (ih (d :: done))

theorem fullRow_nil (columns : List Char) : FullRow [] columns (List.range (columns.length + 1)) := by
  rw [List.range_eq_range', List.range'_succ]
  exact .mk (leastCost_nil []) (row_nil [] columns)

/-- In the last entry all columns are read. -/
theorem Row.getLastD (h : Row a done columns row) (hcorner : LeastCost a done corner) :
    LeastCost a (columns.reverse ++ done) (row.getLastD corner) := by
  induction h generalizing corner with
  | nil => exact hcorner
  | cons hentry _ ih =>
    rw [List.reverse_cons, List.append_assoc, List.singleton_append, List.getLastD_cons]
    exact ih hentry

theorem leastCost_editDistance (a b : List Char) : LeastCost a.reverse b.reverse (editDistance a b) := by
  have hrow := (fullRow_nil b).foldl a
  rw [List.append_nil] at hrow
  unfold editDistance
  generalize a.foldl (stepRow b) (List.range (b.length + 1)) = row at hrow
  cases hrow with
  | mk hcorner habove =>
    have hlast := habove.getLastD hcorner
    rwa [List.append_nil, ← List.getLastD_cons (a := 0)] at hlast

/-- The distance of two texts is the least number of edits that turn one into the other. -/
theorem isLeast_editDistance (a b : List Char) : IsLeast {n | EditsTo n a b} (editDistance a b) := by
  obtain ⟨haligned, hleast⟩ := leastCost_editDistance a b
  constructor
  · have hedits := (Aligned.editsTo haligned).reverse
    rwa [List.reverse_reverse, List.reverse_reverse] at hedits
  · intro n hn
    obtain ⟨m, hm, haligned⟩ := exists_aligned (EditsTo.reverse hn)
    exact Nat.le_trans (hleast haligned) hm

example : editDistance "kitten".toList "sitting".toList = 3 := by decide

end ChatBot.Text
