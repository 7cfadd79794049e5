/-
  ChatBot.Proofs.Text.Pattern — the match that a pattern prefers.

  `Prefers pattern p q`: of the ways in which the pattern matches from `p`, the first ends
  at `q`. A sequence prefers what its parts prefer one after another, and a repetition all
  that it can get (`prefers_many`); the groups so far are of no account (`ends_groups`).
  The leftmost match is found by going on past the places where nothing matches
  (`findFrom_append`).

  `Reads pattern L`: the pattern matches the texts of a language, wherever it stands. All
  the ways to match are known then, not only the preferred one: one rule for each
  constructor, and a text in any case is read up to its case folding (`reads_anyCase`).
-/
import ChatBot.Proofs.Text.Case
import ChatBot.Text.Pattern

namespace ChatBot.Text

theorem Place.upTo_append (before before' : Option Char) (cs rest : List Char) (groups groups' : List (List Char)) :
    (⟨before, cs ++ rest, groups⟩ : Place).upTo ⟨before', rest, groups'⟩ = cs := by
  simp [upTo]

namespace Pattern

def Prefers (pattern : Pattern) (p q : Place) : Prop := (pattern.ends p).head? = some q

/-- What was matched before stays behind what a pattern adds to it. -/
theorem ends_groups (pattern : Pattern) (p : Place) (groups : List (List Char)) :
    pattern.ends { p with groups := p.groups ++ groups } =
      (pattern.ends p).map fun q => { q with groups := q.groups ++ groups } := by
  induction pattern generalizing p with
  | empty => rfl
  | one accepts =>
    obtain ⟨before, rest, gs⟩ := p
    cases rest with
    | nil => rfl
    | cons c cs =>
      simp only [ends]
      split <;> rfl
  | many accepts =>
    obtain ⟨before, rest, gs⟩ := p
    show runs accepts (gs ++ groups) before rest = (runs accepts gs before rest).map _
    induction rest generalizing before with
    | nil => rfl
    | cons c cs ih =>
      rw [runs, runs]
      split
      · rw [ih, List.map_append]
        rfl
      · rfl
  | seq a b iha ihb => simp only [ends, iha, List.flatMap_map, List.map_flatMap, ihb]
  | alt a b iha ihb => simp only [ends, iha, ihb, List.map_append]
  | group a ih =>
    simp only [ends, ih, List.map_map]
    rfl
  | start =>
    simp only [ends]
    split <;> rfl
  | stop =>
    simp only [ends]
    split <;> rfl
  | wordEdge =>
    show (if p.onWordEdge then _ else []) = (if p.onWordEdge then [p] else []).map _
    split <;> rfl

section Prefers

variable {a b : Pattern} {p q r : Place}

theorem Prefers.seq (ha : a.Prefers p q) (hb : b.Prefers q r) : (Pattern.seq a b).Prefers p r := by
  obtain ⟨ends, hends⟩ := List.head?_eq_some_iff.mp ha
  show ((a.ends p).flatMap b.ends).head? = some r
  rw [hends, List.flatMap_cons, List.head?_append, show (b.ends q).head? = some r from hb]
  rfl

theorem Prefers.alt (ha : a.Prefers p q) : (Pattern.alt a b).Prefers p q := by
  show (a.ends p ++ b.ends p).head? = some q
  rw [List.head?_append, show (a.ends p).head? = some q from ha]
  rfl

theorem Prefers.group (ha : a.Prefers p q) :
    (Pattern.group a).Prefers p { q with groups := p.upTo q :: q.groups } := by
  show ((a.ends p).map _).head? = _
  rw [List.head?_map, show (a.ends p).head? = some q from ha]
  rfl

theorem Prefers.groups (ha : a.Prefers p q) (groups : List (List Char)) :
    a.Prefers { p with groups := p.groups ++ groups } { q with groups := q.groups ++ groups } := by
  rw [Prefers, ends_groups, List.head?_map, show (a.ends p).head? = some q from ha]
  rfl

theorem prefers_one {accepts : Char → Bool} {before : Option Char} {c : Char} {rest : List Char}
    {groups : List (List Char)} (h : accepts c = true) :
    (Pattern.one accepts).Prefers ⟨before, c :: rest, groups⟩ ⟨some c, rest, groups⟩ := by
  simp [Prefers, ends, h]

/-- A repetition takes all the characters of its class. -/
theorem prefers_many {accepts : Char → Bool} {cs rest : List Char} (h : ∀ c ∈ cs, accepts c = true)
    (hrest : ∀ c ∈ rest.head?, accepts c = false) (before : Option Char) (groups : List (List Char)) :
    (Pattern.many accepts).Prefers ⟨before, cs ++ rest, groups⟩ ⟨cs.getLast?.or before, rest, groups⟩ := by
  show (runs accepts groups before (cs ++ rest)).head? = _
  induction cs generalizing before with
  | nil =>
    cases rest with
    | nil => rfl
    | cons c rest => simp [runs, hrest c rfl]
  | cons c cs ih =>
    have hall : ∀ d ∈ cs, accepts d = true := fun d hd => h d (List.mem_cons_of_mem c hd)
    rw [List.cons_append, runs, if_pos (h c List.mem_cons_self), List.head?_append, ih hall, Option.some_or,
      List.getLast?_cons]
    cases cs.getLast? <;> rfl

/-- At least one character, and all there are. -/
theorem prefers_atLeastOne {accepts : Char → Bool} {c : Char} {cs rest : List Char}
    (h : ∀ d ∈ c :: cs, accepts d = true) (hrest : ∀ d ∈ rest.head?, accepts d = false) (before : Option Char)
    (groups : List (List Char)) :
    (atLeastOne accepts).Prefers ⟨before, c :: cs ++ rest, groups⟩ ⟨(c :: cs).getLast?, rest, groups⟩ := by
  have hmany := prefers_many (fun d hd => h d (List.mem_cons_of_mem c hd)) hrest (some c) groups
  have hlast : cs.getLast?.or (some c) = (c :: cs).getLast? := by
    rw [List.getLast?_cons]
    cases cs.getLast? <;> rfl
  rw [hlast] at hmany
  exact (prefers_one (h c List.mem_cons_self)).seq hmany

end Prefers

variable {pattern : Pattern}

theorem find?_of_prefers {cs : List Char} {q : Place} (h : pattern.Prefers (.atStart cs) q) :
    ∃ found, pattern.find? cs = some (found, q) := by
  refine ⟨(Place.atStart cs).upTo q, ?_⟩
  have hmatch : pattern.matchAt ⟨none, cs, []⟩ = some ((Place.atStart cs).upTo q, q) := by
    rw [matchAt, show (pattern.ends ⟨none, cs, []⟩).head? = some q from h]
    rfl
  cases cs with
  | nil => exact hmatch
  | cons c cs => rw [find?, findFrom, hmatch]

/-- Characters at which nothing matches are passed over. -/
theorem findFrom_append {cs : List Char} (rest : List Char) (before : Option Char)
    (h : ∀ c ∈ cs, ∀ before rest, pattern.ends ⟨before, c :: rest, []⟩ = []) :
    pattern.findFrom before (cs ++ rest) = pattern.findFrom (cs.getLast?.or before) rest := by
  induction cs generalizing before with
  | nil => rfl
  | cons c cs ih =>
    have hnone : pattern.matchAt ⟨before, c :: (cs ++ rest), []⟩ = none := by
      rw [matchAt, h c List.mem_cons_self]
      rfl
    rw [List.cons_append, findFrom, hnone, List.getLast?_cons]
    rw [ih (some c) fun d hd => h d (List.mem_cons_of_mem c hd)]
    cases cs.getLast? <;> rfl

/-! ## All the ways to match -/

theorem mem_ends_seq {a b : Pattern} {p q : Place} :
    q ∈ (Pattern.seq a b).ends p ↔ ∃ r ∈ a.ends p, q ∈ b.ends r := List.mem_flatMap

theorem mem_ends_alt {a b : Pattern} {p q : Place} :
    q ∈ (Pattern.alt a b).ends p ↔ q ∈ a.ends p ∨ q ∈ b.ends p := List.mem_append

/-- From every place a pattern matches just the texts of a language, and remembers nothing of them. -/
def Reads (pattern : Pattern) (L : List Char → Prop) : Prop :=
  ∀ before cs groups q, q ∈ pattern.ends ⟨before, cs, groups⟩ ↔
    ∃ xs ys, L xs ∧ cs = xs ++ ys ∧ q = ⟨xs.getLast?.or before, ys, groups⟩

section Reads

variable {a b : Pattern} {L M : List Char → Prop}

theorem Reads.congr (h : a.Reads L) (hiff : ∀ xs, L xs ↔ M xs) : a.Reads M := by
  obtain rfl : L = M := funext fun xs => propext (hiff xs)
  exact h

theorem reads_empty : Pattern.empty.Reads (· = []) := by
  intro before cs groups q
  show q ∈ [_] ↔ _
  rw [List.mem_singleton]
  constructor
  · rintro rfl
    exact ⟨[], cs, rfl, rfl, rfl⟩
  · rintro ⟨_, ys, rfl, rfl, rfl⟩
    rfl

theorem reads_one (accepts : Char → Bool) : (Pattern.one accepts).Reads fun xs => ∃ c, accepts c = true ∧ xs = [c] := by
  intro before cs groups q
  cases cs with
  | nil =>
    refine ⟨fun h => absurd h List.not_mem_nil, ?_⟩
    rintro ⟨_, ys, ⟨c, -, rfl⟩, h, -⟩
    cases h
  | cons c cs =>
    simp only [ends]
    split
    · rename_i hc
      rw [List.mem_singleton]
      constructor
      · rintro rfl
        exact ⟨[c], cs, ⟨c, hc, rfl⟩, rfl, rfl⟩
      · rintro ⟨_, ys, ⟨d, -, rfl⟩, h, rfl⟩
        cases h
        rfl
    · rename_i hc
      refine ⟨fun h => absurd h List.not_mem_nil, ?_⟩
      rintro ⟨_, ys, ⟨d, hd, rfl⟩, h, -⟩
      cases h
      exact absurd hd hc

theorem reads_many (accepts : Char → Bool) : (Pattern.many accepts).Reads fun xs => ∀ c ∈ xs, accepts c = true := by
  intro before cs groups q
  show q ∈ runs accepts groups before cs ↔ _
  induction cs generalizing before with
  | nil =>
    rw [runs, List.mem_singleton]
    constructor
    · rintro rfl
      exact ⟨[], [], by simp, rfl, rfl⟩
    · rintro ⟨xs, ys, -, h, rfl⟩
      obtain ⟨rfl, rfl⟩ := List.append_eq_nil_iff.mp h.symm
      rfl
  | cons c cs ih =>
    have hnone : (∃ xs ys, (∀ d ∈ xs, accepts d = true) ∧ c :: cs = xs ++ ys ∧
          q = ⟨xs.getLast?.or before, ys, groups⟩) ↔
        q = ⟨before, c :: cs, groups⟩ ∨ accepts c = true ∧ ∃ xs ys, (∀ d ∈ xs, accepts d = true) ∧ cs = xs ++ ys ∧
          q = ⟨xs.getLast?.or (some c), ys, groups⟩ := by
      constructor
      · rintro ⟨xs, ys, hxs, h, rfl⟩
        cases xs with
        | nil =>
          obtain rfl : c :: cs = ys := h
          exact .inl rfl
        | cons d xs =>
          obtain ⟨rfl, rfl⟩ := List.cons.inj h
          obtain ⟨hd, hxs⟩ := List.forall_mem_cons.mp hxs
          refine .inr ⟨hd, xs, ys, hxs, rfl, ?_⟩
          rw [List.getLast?_cons]
          cases xs.getLast? <;> rfl
      · rintro (rfl | ⟨hc, xs, ys, hxs, rfl, rfl⟩)
        · exact ⟨[], _, by simp, rfl, rfl⟩
        · refine ⟨c :: xs, ys, List.forall_mem_cons.mpr ⟨hc, hxs⟩, rfl, ?_⟩
          rw [List.getLast?_cons]
          cases xs.getLast? <;> rfl
    rw [runs, hnone]
    split
    · rename_i hc
      rw [List.mem_append, ih, List.mem_singleton, or_comm, and_iff_right hc]
    · rename_i hc
      rw [List.mem_singleton, or_iff_left fun h => hc h.1]

theorem Reads.seq (ha : a.Reads L) (hb : b.Reads M) :
    (Pattern.seq a b).Reads fun zs => ∃ xs ys, L xs ∧ M ys ∧ zs = xs ++ ys := by
  intro before cs groups q
  rw [mem_ends_seq]
  constructor
  · rintro ⟨r, hr, hq⟩
    obtain ⟨xs, rest, hxs, rfl, rfl⟩ := (ha ..).mp hr
    obtain ⟨ys, zs, hys, rfl, rfl⟩ := (hb ..).mp hq
    refine ⟨xs ++ ys, zs, ⟨xs, ys, hxs, hys, rfl⟩, (List.append_assoc ..).symm, ?_⟩
    rw [List.getLast?_append, Option.or_assoc]
  · rintro ⟨_, zs, ⟨xs, ys, hxs, hys, rfl⟩, rfl, rfl⟩
    refine ⟨_, (ha ..).mpr ⟨xs, ys ++ zs, hxs, List.append_assoc .., rfl⟩, (hb ..).mpr ⟨ys, zs, hys, rfl, ?_⟩⟩
    rw [List.getLast?_append, Option.or_assoc]

theorem Reads.alt (ha : a.Reads L) (hb : b.Reads M) : (Pattern.alt a b).Reads fun xs => L xs ∨ M xs := by
  intro before cs groups q
  rw [mem_ends_alt, ha, hb]
  constructor
  · rintro (⟨xs, ys, hxs, h⟩ | ⟨xs, ys, hxs, h⟩)
    · exact ⟨xs, ys, .inl hxs, h⟩
    · exact ⟨xs, ys, .inr hxs, h⟩
  · rintro ⟨xs, ys, hxs | hxs, h⟩
    · exact .inl ⟨xs, ys, hxs, h⟩
    · exact .inr ⟨xs, ys, hxs, h⟩

theorem reads_atLeastOne (accepts : Char → Bool) :
    (atLeastOne accepts).Reads fun xs => xs ≠ [] ∧ ∀ c ∈ xs, accepts c = true := by
  refine ((reads_one accepts).seq (reads_many accepts)).congr fun xs => ?_
  constructor
  · rintro ⟨_, ys, ⟨c, hc, rfl⟩, hys, rfl⟩
    exact ⟨List.cons_ne_nil c ys, List.forall_mem_cons.mpr ⟨hc, hys⟩⟩
  · rintro ⟨hne, hxs⟩
    obtain ⟨c, ys, rfl⟩ := List.exists_cons_of_ne_nil hne
    obtain ⟨hc, hys⟩ := List.forall_mem_cons.mp hxs
    exact ⟨[c], ys, ⟨c, hc, rfl⟩, hys, rfl⟩

/-- A group remembers the text that its part matches. -/
theorem Reads.mem_group (ha : a.Reads L) {before : Option Char} {cs : List Char} {groups : List (List Char)}
    {q : Place} : q ∈ (Pattern.group a).ends ⟨before, cs, groups⟩ ↔
      ∃ xs ys, L xs ∧ cs = xs ++ ys ∧ q = ⟨xs.getLast?.or before, ys, xs :: groups⟩ := by
  show q ∈ (a.ends _).map _ ↔ _
  rw [List.mem_map]
  constructor
  · rintro ⟨r, hr, rfl⟩
    obtain ⟨xs, ys, hxs, rfl, rfl⟩ := (ha ..).mp hr
    exact ⟨xs, ys, hxs, rfl, by rw [Place.upTo_append]⟩
  · rintro ⟨xs, ys, hxs, rfl, rfl⟩
    exact ⟨_, (ha ..).mpr ⟨xs, ys, hxs, rfl, rfl⟩, by rw [Place.upTo_append]⟩

end Reads

/-! ### Texts in any case -/

/-- The simple case folding of a character, as far as ASCII letters are concerned: the
    kelvin sign and the long s are letters too, and other scripts are left alone. -/
def fold (c : Char) : Char := if c.toNat = 0x212a then 'k' else if c.toNat = 0x17f then 's' else c.toLower

/-- A lowercase letter is the folding of what folds to it. -/
theorem foldsTo_iff {letter : Char} (hlower : letter.toLower = letter) (hascii : letter.toNat < 0x80) (c : Char) :
    foldsTo letter c = true ↔ fold c = letter := by
  have hother : ∀ {n}, 0x80 ≤ n → c.toNat = n → c.toLower = c → c.toLower ≠ letter := by
    rintro n hn hc hkept rfl
    rw [hkept] at hascii
    omega
  rw [foldsTo, hlower, fold]
  simp only [Bool.or_eq_true, Bool.and_eq_true, beq_iff_eq]
  split
  · rename_i hc
    have hkept : c.toLower = c := toLower_of_not_capital (by omega)
    simp [hc, hother (by decide) hc hkept, eq_comm]
  split
  · rename_i hc
    have hkept : c.toLower = c := toLower_of_not_capital (by omega)
    simp [hc, hother (by decide) hc hkept, eq_comm]
  · rename_i hkelvin hlong
    simp [hkelvin, hlong]

theorem isBlank_fold (c : Char) : isBlank (fold c) = isBlank c := by
  unfold fold
  split
  · rename_i hc
    rw [← Char.ofNat_toNat c, hc]
    rfl
  split
  · rename_i hc
    rw [← Char.ofNat_toNat c, hc]
    rfl
  · exact isBlank_toLower c

theorem isBlank_of_letter {c : Char} (h : 65 ≤ c.toNat ∧ c.toNat ≤ 122) : isBlank c = false := by
  simp only [isBlank, Bool.or_eq_false_iff, Bool.and_eq_false_iff, decide_eq_false_iff_not, beq_eq_false_iff_ne]
  omega

/-- The digits of the scripts come before the ASCII letters or after them. -/
theorem isDecimal_of_letter {c : Char} (h : 65 ≤ c.toNat ∧ c.toNat ≤ 122) : isDecimal c = false := by
  have hout : ∀ first ∈ decimalZeros, first + 9 < 65 ∨ 122 < first := by decide
  refine List.any_eq_false.mpr fun first hfirst => ?_
  have := hout first hfirst
  simp only [Bool.and_eq_true, decide_eq_true_eq]
  omega

theorem isDecimal_fold (c : Char) : isDecimal (fold c) = isDecimal c := by
  unfold fold
  split
  · rename_i hc
    rw [← Char.ofNat_toNat c, hc]
    rfl
  split
  · rename_i hc
    rw [← Char.ofNat_toNat c, hc]
    rfl
  · refine toLower_rec (P := fun d c => isDecimal d = isDecimal c) (fun _ => rfl) (fun n hn => ?_) c
    obtain ⟨hsmall, hcapital⟩ := toNat_letter n hn
    rw [isDecimal_of_letter (by omega), isDecimal_of_letter (by omega)]

/-- A text of lowercase ASCII letters, or of other ASCII characters without case. -/
def isLowerAscii (s : String) : Bool := s.toList.all fun letter => letter.toLower == letter && letter.toNat < 0x80

/-- A lowercase text in any case. -/
theorem reads_anyCase {s : String} (h : isLowerAscii s = true) :
    (anyCase s).Reads fun xs => xs.map fold = s.toList := by
  show (s.toList.foldr (fun c rest => Pattern.seq (.one (foldsTo c)) rest) Pattern.empty).Reads _
  unfold isLowerAscii at h
  generalize s.toList = letters at h ⊢
  induction letters with
  | nil => exact reads_empty.congr fun xs => List.map_eq_nil_iff.symm
  | cons letter letters ih =>
    obtain ⟨⟨hlower, hascii⟩, hletters⟩ : (letter.toLower = letter ∧ letter.toNat < 0x80) ∧ _ = true := by
      simpa only [List.all_cons, Bool.and_eq_true, beq_iff_eq, decide_eq_true_eq] using h
    refine ((reads_one _).seq (ih hletters)).congr fun xs => ?_
    constructor
    · rintro ⟨_, ys, ⟨c, hc, rfl⟩, hys, rfl⟩
      rw [List.singleton_append, List.map_cons, hys, (foldsTo_iff hlower hascii c).mp hc]
    · intro hxs
      obtain ⟨c, ys, rfl, hc, hys⟩ := List.map_eq_cons_iff.mp hxs
      exact ⟨[c], ys, ⟨c, (foldsTo_iff hlower hascii c).mpr hc, rfl⟩, hys, rfl⟩

end Pattern

/-- A digit of any script is no blank. -/
theorem isBlank_of_isDecimal {c : Char} (h : isDecimal c = true) : isBlank c = false := by
  -- Where the digits stand between the blanks.
  have hout : ∀ first ∈ decimalZeros, 32 < first ∧ first + 9 < 133 ∨ 160 < first ∧ first + 9 < 5760 ∨
      5760 < first ∧ first + 9 < 8192 ∨ 12288 < first := by decide
  obtain ⟨first, hfirst, hc⟩ := List.any_eq_true.mp h
  have := hout first hfirst
  simp only [Bool.and_eq_true, decide_eq_true_eq] at hc
  simp only [isBlank, Bool.or_eq_false_iff, Bool.and_eq_false_iff, decide_eq_false_iff_not, beq_eq_false_iff_ne]
  omega

end ChatBot.Text
