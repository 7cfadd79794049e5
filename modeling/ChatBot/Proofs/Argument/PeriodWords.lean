/-
  ChatBot.Proofs.Argument.PeriodWords — the words of a text in which a period is found.

  The pattern of a period has overlapping words, an optional amount and optional blanks, and
  every match takes a blank on both sides. Behind one edge it can go on in one way only:
  digits end where the word begins, and the word ends at a blank (`reading?`). So the search
  for the leftmost match goes through the words of the text from left to right (`scan`), and
  a word whose digits are not accepted is not passed over.

  Proved:
  - `reads_unitWords`: the pattern has just the spellings of the units, up to case folding.
  - `find?_groups`: what a match remembers is what the scan gives.
  - `findPeriod_scans`: without a token that names a unit no period is found; else the first
    such token decides, with the digits before its word, or else with the token before it if
    that is only digits, and no later token is tried.
-/
import ChatBot.Proofs.Argument.Periods
import ChatBot.Proofs.Text.Split
import Mathlib.Data.List.TakeWhile

namespace ChatBot.TimeRange

open Text Pattern

/-! ## Words for units -/

/-- A word for a unit, in any case. -/
def IsUnitWord (cs : List Char) : Prop := ∃ unit : Unit, String.ofList (cs.map fold) ∈ unit.spellings

instance (cs : List Char) : Decidable (IsUnitWord cs) :=
  decidable_of_iff (∃ unit ∈ Unit.all, String.ofList (cs.map fold) ∈ unit.spellings)
    ⟨fun ⟨unit, _, h⟩ => ⟨unit, h⟩, fun ⟨unit, h⟩ => ⟨unit, unit.mem_all, h⟩⟩

theorem IsUnitWord.of_mem {cs : List Char} (h : IsUnitWord cs) {c : Char} (hc : c ∈ cs) :
    isBlank c = false ∧ isDecimal c = false := by
  have hletters : ∀ u ∈ Unit.all, ∀ w ∈ u.spellings,
      (w.toList.all fun c => 97 ≤ c.toNat && c.toNat ≤ 122) = true := by decide
  obtain ⟨unit, hword⟩ := h
  have hall := hletters unit unit.mem_all _ hword
  rw [String.toList_ofList] at hall
  have hc' := List.all_eq_true.mp hall _ (List.mem_map_of_mem hc)
  simp only [Bool.and_eq_true, decide_eq_true_eq] at hc'
  rw [← isBlank_fold, ← isDecimal_fold]
  exact ⟨isBlank_of_letter (by omega), isDecimal_of_letter (by omega)⟩

theorem not_isUnitWord_nil : ¬ IsUnitWord [] := by
  rintro ⟨unit, h⟩
  cases unit <;> simp [Unit.spellings] at h

/-- The words that the pattern spells out, in its order. -/
def patternWords : List String :=
  ["minute", "minutes", "min", "mins", "hour", "hours", "h", "day", "days", "d", "week", "weeks", "w", "fortnight",
    "fortnights", "month", "months", "mo", "m", "quarter", "quarters", "q", "halfyear", "half", "year", "years", "y"]

section Reads

variable {a b : Pattern} {ws ws' : List String} {w : String}

theorem folded_eq {cs : List Char} : String.ofList (cs.map fold) = w ↔ cs.map fold = w.toList := by
  rw [← String.toList_inj, String.toList_ofList]

theorem reads_word (h : isLowerAscii w = true) : (anyCase w).Reads fun cs => String.ofList (cs.map fold) ∈ [w] := by
  refine (reads_anyCase h).congr fun cs => ?_
  rw [List.mem_singleton, folded_eq]

theorem reads_words (ha : a.Reads fun cs => String.ofList (cs.map fold) ∈ ws)
    (hb : b.Reads fun cs => String.ofList (cs.map fold) ∈ ws') :
    (Pattern.alt a b).Reads fun cs => String.ofList (cs.map fold) ∈ ws ++ ws' :=
  (ha.alt hb).congr fun _ => List.mem_append.symm

theorem reads_plural (h : isLowerAscii w = true) :
    (unitWords.plural w).Reads fun cs => String.ofList (cs.map fold) ∈ [w, w ++ "s"] := by
  refine ((reads_anyCase h).seq ((reads_anyCase (s := "s") rfl).alt reads_empty)).congr fun cs => ?_
  rw [List.mem_cons, List.mem_singleton, folded_eq, folded_eq, String.toList_append]
  constructor
  · rintro ⟨xs, ys, hxs, hys | rfl, rfl⟩
    · exact .inr (by rw [List.map_append, hxs, hys])
    · exact .inl (by rw [List.append_nil, hxs])
  · rintro (h | h)
    · exact ⟨cs, [], h, .inr rfl, (List.append_nil cs).symm⟩
    · obtain ⟨xs, ys, rfl, hxs, hys⟩ := List.map_eq_append_iff.mp h
      exact ⟨xs, ys, hxs, .inl hys, rfl⟩

/-- The pattern has just the words for the units. -/
theorem reads_unitWords : unitWords.Reads IsUnitWord := by
  have hwords : unitWords.Reads fun cs => String.ofList (cs.map fold) ∈ patternWords :=
    reads_words (reads_plural rfl) <| reads_words (reads_plural rfl) <| reads_words (reads_plural rfl) <|
    reads_words (reads_word rfl) <| reads_words (reads_plural rfl) <| reads_words (reads_word rfl) <|
    reads_words (reads_plural rfl) <| reads_words (reads_word rfl) <| reads_words (reads_plural rfl) <|
    reads_words (reads_plural rfl) <| reads_words (reads_word rfl) <| reads_words (reads_word rfl) <|
    reads_words (reads_plural rfl) <| reads_words (reads_word rfl) <| reads_words (reads_word rfl) <|
    reads_words (reads_word rfl) <| reads_words (reads_plural rfl) (reads_word rfl)
  have hsound : ∀ w ∈ patternWords, ∃ u ∈ Unit.all, w ∈ u.spellings := by decide
  have hcomplete : ∀ u ∈ Unit.all, ∀ w ∈ u.spellings, w ∈ patternWords := by decide
  refine hwords.congr fun cs => ⟨fun h => ?_, fun ⟨unit, h⟩ => hcomplete unit unit.mem_all _ h⟩
  obtain ⟨unit, -, hunit⟩ := hsound _ h
  exact ⟨unit, hunit⟩

end Reads

/-! ## At one place -/

/-- A text begins with an amount, if any, blanks, and a word for a unit that ends there. -/
def Begins (amount : Option (List Char)) (word cs : List Char) : Prop :=
  ∃ digits blanks rest, cs = digits ++ (blanks ++ (word ++ rest)) ∧
    amount = (if digits = [] then none else some digits) ∧ (∀ c ∈ digits, isDecimal c = true) ∧
    (∀ c ∈ blanks, isBlank c = true) ∧ IsUnitWord word ∧ ∀ c ∈ rest.head?, isBlank c = true

/-- The pattern without the edge before it. -/
def afterEdge : Pattern :=
  .seqAll [.optional (.group (.atLeastOne isDecimal)), .many isBlank, .group unitWords, edgeAfter]

theorem mem_ends_digits {before : Option Char} {cs : List Char} {q : Place} :
    q ∈ (Pattern.optional (.group (.atLeastOne isDecimal))).ends ⟨before, cs, []⟩ ↔
      ∃ digits ys, (∀ c ∈ digits, isDecimal c = true) ∧ cs = digits ++ ys ∧
        q = ⟨digits.getLast?.or before, ys, if digits = [] then [] else [digits]⟩ := by
  rw [Pattern.optional, mem_ends_alt, (reads_atLeastOne isDecimal).mem_group, reads_empty]
  constructor
  · rintro (⟨digits, ys, ⟨hne, hdigits⟩, hcs, rfl⟩ | ⟨_, ys, rfl, hcs, rfl⟩)
    · exact ⟨digits, ys, hdigits, hcs, by rw [if_neg hne]⟩
    · exact ⟨[], ys, by simp, hcs, rfl⟩
  · rintro ⟨digits, ys, hdigits, hcs, rfl⟩
    by_cases hne : digits = []
    · subst hne
      exact .inr ⟨[], ys, rfl, hcs, rfl⟩
    · exact .inl ⟨digits, ys, ⟨hne, hdigits⟩, hcs, by rw [if_neg hne]⟩

/-- A blank or the end of the text follows. -/
theorem exists_mem_edgeAfter {p : Place} {groups : List (List Char)} :
    (∃ q ∈ edgeAfter.ends p, q.groups = groups) ↔ p.groups = groups ∧ ∀ c ∈ p.rest.head?, isBlank c = true := by
  obtain ⟨before, cs, gs⟩ := p
  cases cs with
  | nil => simp [edgeAfter, ends]
  | cons c cs =>
    cases hc : isBlank c <;> simp [edgeAfter, ends, hc]

theorem exists_mem_afterEdge {before : Option Char} {cs : List Char} {groups : List (List Char)} :
    (∃ q ∈ afterEdge.ends ⟨before, cs, []⟩, q.groups = groups) ↔
      ∃ amount word, Begins amount word cs ∧ groups = word :: amount.toList := by
  constructor
  · rintro ⟨q, hq, hgroups⟩
    obtain ⟨p₁, hp₁, hq⟩ := mem_ends_seq.mp hq
    obtain ⟨p₂, hp₂, hq⟩ := mem_ends_seq.mp hq
    obtain ⟨p₃, hp₃, hq⟩ := mem_ends_seq.mp hq
    obtain ⟨digits, ys, hdigits, rfl, rfl⟩ := mem_ends_digits.mp hp₁
    obtain ⟨blanks, ys, hblanks, rfl, rfl⟩ := (reads_many isBlank ..).mp hp₂
    obtain ⟨word, rest, hword, rfl, rfl⟩ := reads_unitWords.mem_group.mp hp₃
    obtain ⟨rfl, hrest⟩ := exists_mem_edgeAfter.mp ⟨q, hq, hgroups⟩
    refine ⟨_, word, ⟨digits, blanks, rest, rfl, rfl, hdigits, hblanks, hword, hrest⟩, ?_⟩
    split <;> rfl
  · rintro ⟨_, word, ⟨digits, blanks, rest, rfl, rfl, hdigits, hblanks, hword, hrest⟩, rfl⟩
    have hp₁ := (@mem_ends_digits before _ _).mpr ⟨digits, blanks ++ (word ++ rest), hdigits, rfl, rfl⟩
    generalize hfound : (if digits = [] then [] else [digits]) = found at hp₁
    generalize digits.getLast?.or before = before at hp₁
    have hp₂ := (reads_many isBlank before _ found _).mpr ⟨blanks, word ++ rest, hblanks, rfl, rfl⟩
    generalize blanks.getLast?.or before = before' at hp₂
    have hp₃ := (@Reads.mem_group _ _ reads_unitWords before' _ found _).mpr ⟨word, rest, hword, rfl, rfl⟩
    obtain ⟨q, hq, hgroups⟩ := exists_mem_edgeAfter.mpr
      (⟨rfl, hrest⟩ : (⟨word.getLast?.or before', rest, word :: found⟩ : Place).groups = _ ∧ _)
    refine ⟨q, mem_ends_seq.mpr ⟨_, hp₁, mem_ends_seq.mpr ⟨_, hp₂, mem_ends_seq.mpr ⟨_, hp₃, hq⟩⟩⟩, ?_⟩
    rw [hgroups, ← hfound]
    split <;> rfl

/-! ## What is read, from the words -/

/-- The first word, if it is one for a unit. -/
def unitFirst : List (List Char) → Option (List Char)
  | [] => none
  | word :: _ => if IsUnitWord word then some word else none

/-- The amount and the word that the first token gives. Digits alone take the word that follows. -/
def tokenFirst : List (List Char) → Option (Option (List Char) × List Char)
  | [] => none
  | token :: later =>
    let digits := token.takeWhile isDecimal
    let word := token.dropWhile isDecimal
    if word = [] then (unitFirst later).map fun word => (some digits, word)
    else if IsUnitWord word then some (if digits = [] then none else some digits, word)
    else none

/-- What is read where no blank is left to begin at: behind a blank there are no digits. -/
def reading? (cs : List Char) : Option (Option (List Char) × List Char) :=
  if cs.head?.any isBlank then (unitFirst (words cs)).map fun word => (none, word) else tokenFirst (words cs)

theorem unitFirst_eq_some {ws : List (List Char)} {word : List Char} :
    unitFirst ws = some word ↔ ∃ later, ws = word :: later ∧ IsUnitWord word := by
  cases ws with
  | nil => simp [unitFirst]
  | cons w ws =>
    rw [unitFirst, Option.ite_none_right_eq_some, Option.some.injEq]
    constructor
    · rintro ⟨h, rfl⟩
      exact ⟨ws, rfl, h⟩
    · rintro ⟨later, heq, h⟩
      obtain ⟨rfl, -⟩ := List.cons.inj heq
      exact ⟨h, rfl⟩

theorem IsUnitWord.exists_head {word : List Char} (h : IsUnitWord word) :
    ∃ c cs, word = c :: cs ∧ isBlank c = false ∧ isDecimal c = false := by
  obtain ⟨c, cs, rfl⟩ := List.exists_cons_of_ne_nil fun hnil : word = [] => not_isUnitWord_nil (hnil ▸ h)
  exact ⟨c, cs, rfl, h.of_mem List.mem_cons_self⟩

/-- Digits before a word for a unit end where the word begins. -/
theorem IsUnitWord.cut_digits {word digits : List Char} (h : IsUnitWord word)
    (hdigits : ∀ c ∈ digits, isDecimal c = true) :
    (digits ++ word).takeWhile isDecimal = digits ∧ (digits ++ word).dropWhile isDecimal = word := by
  obtain ⟨c, cs, rfl, -, hc⟩ := h.exists_head
  rw [List.takeWhile_append_of_pos hdigits, List.dropWhile_append_of_pos hdigits]
  simp [hc]

theorem IsUnitWord.words_append {word rest : List Char} (h : IsUnitWord word)
    (hrest : ∀ c ∈ rest.head?, isBlank c = true) : words (word ++ rest) = word :: words rest := by
  obtain ⟨c, cs, hword, -⟩ := h.exists_head
  exact Text.words_append (by rw [hword]; exact List.cons_ne_nil c cs) (fun c hc => (h.of_mem hc).1) hrest

theorem reading?_of_begins {amount : Option (List Char)} {word cs : List Char} (h : Begins amount word cs) :
    reading? cs = some (amount, word) := by
  obtain ⟨digits, blanks, rest, rfl, rfl, hdigits, hblanks, hword, hrest⟩ := h
  obtain ⟨htake, hdrop⟩ := hword.cut_digits hdigits
  have hwords := hword.words_append hrest
  have hne : word ≠ [] := fun hnil => not_isUnitWord_nil (hnil ▸ hword)
  cases blanks with
  | nil =>
    -- the digits and the word are one token
    obtain ⟨c, cs, htoken⟩ := List.exists_cons_of_ne_nil (show digits ++ word ≠ [] by simp [hne])
    have hblank : ∀ c ∈ digits ++ word, isBlank c = false := by
      intro c hc
      rcases List.mem_append.mp hc with hc | hc
      · exact isBlank_of_isDecimal (hdigits c hc)
      · exact (hword.of_mem hc).1
    rw [List.nil_append, ← List.append_assoc]
    rw [htoken] at hblank htake hdrop ⊢
    have hhead : isBlank c = false := hblank c List.mem_cons_self
    rw [reading?, if_neg (by simp [hhead]), Text.words_append (List.cons_ne_nil c cs) hblank hrest, tokenFirst]
    simp only [htake, hdrop, if_neg hne, if_pos hword]
  | cons b bs =>
    have hgap : words (b :: bs ++ (word ++ rest)) = word :: words rest := by rw [words_blank_append hblanks, hwords]
    have hb := hblanks b List.mem_cons_self
    cases digits with
    | nil =>
      have hfirst : unitFirst (word :: words rest) = some word := if_pos hword
      rw [List.nil_append, reading?, if_pos (by simp [hb]), hgap, hfirst]
      rfl
    | cons d ds =>
      -- the digits are a token of their own
      have hd := isBlank_of_isDecimal (hdigits d List.mem_cons_self)
      have htoken : words (d :: ds ++ (b :: bs ++ (word ++ rest))) = (d :: ds) :: word :: words rest := by
        rw [Text.words_append (List.cons_ne_nil d ds) (fun c hc => isBlank_of_isDecimal (hdigits c hc)), hgap]
        rintro _ ⟨⟩
        exact hb
      have hfirst : unitFirst (word :: words rest) = some word := if_pos hword
      have hall : (d :: ds).takeWhile isDecimal = d :: ds := List.takeWhile_eq_self_iff.mpr hdigits
      have hnone : (d :: ds).dropWhile isDecimal = [] := List.dropWhile_eq_nil_iff.mpr hdigits
      rw [reading?, if_neg (by simp [hd]), htoken, tokenFirst, hall, hnone, hfirst]
      rfl

theorem begins_of_reading? {amount : Option (List Char)} {word cs : List Char} (h : reading? cs = some (amount, word)) :
    Begins amount word cs := by
  unfold reading? at h
  split at h
  · obtain ⟨w, hfirst, heq⟩ := Option.map_eq_some_iff.mp h
    cases heq
    obtain ⟨later, hwords, hword⟩ := unitFirst_eq_some.mp hfirst
    obtain ⟨blanks, rest, rfl, hblanks, hrest, -⟩ := words_eq_cons hwords
    exact ⟨[], blanks, rest, rfl, rfl, by simp, hblanks, hword, hrest⟩
  · rename_i hhead
    cases hwords : words cs with
    | nil => rw [hwords] at h; cases h
    | cons token later =>
      obtain ⟨blanks, rest, rfl, hblanks, hrest, rfl⟩ := words_eq_cons hwords
      obtain ⟨htoken, -⟩ := mem_words (hwords ▸ List.mem_cons_self)
      obtain rfl : blanks = [] := by
        cases blanks with
        | nil => rfl
        | cons b bs => exact absurd (hblanks b List.mem_cons_self) (by simpa using hhead)
      have hsplit : token.takeWhile isDecimal ++ token.dropWhile isDecimal = token := List.takeWhile_append_dropWhile
      have hdigits : ∀ c ∈ token.takeWhile isDecimal, isDecimal c = true := fun c hc => List.mem_takeWhile_imp hc
      rw [hwords, tokenFirst] at h
      generalize token.takeWhile isDecimal = digits at h hsplit hdigits
      generalize token.dropWhile isDecimal = unitPart at h hsplit
      subst hsplit
      split at h
      · rename_i hnil
        subst hnil
        rw [List.append_nil] at htoken
        obtain ⟨w, hfirst, heq⟩ := Option.map_eq_some_iff.mp h
        cases heq
        obtain ⟨_, hnext, hword⟩ := unitFirst_eq_some.mp hfirst
        obtain ⟨gap, rest, rfl, hgap, hrest, -⟩ := words_eq_cons hnext
        exact ⟨digits, gap, rest, by simp, (if_neg htoken).symm, hdigits, hgap, hword, hrest⟩
      · obtain ⟨hword, heq⟩ := Option.ite_none_right_eq_some.mp h
        cases heq
        exact ⟨digits, [], rest, by simp, rfl, hdigits, by simp, hword, hrest⟩

/-- Of all ways to go on from the edge, the first gives what is read from the words. -/
theorem head?_afterEdge (before : Option Char) (cs : List Char) :
    ((afterEdge.ends ⟨before, cs, []⟩).head?).map Place.groups =
      (reading? cs).map fun found => found.2 :: found.1.toList := by
  cases hends : (afterEdge.ends ⟨before, cs, []⟩).head? with
  | none =>
    cases hread : reading? cs with
    | none => rfl
    | some found =>
      obtain ⟨q, hq, -⟩ := exists_mem_afterEdge.mpr ⟨_, _, begins_of_reading? hread, rfl⟩
      rw [List.head?_eq_none_iff.mp hends] at hq
      cases hq
  | some q =>
    obtain ⟨amount, word, hbegins, hgroups⟩ :=
      exists_mem_afterEdge.mp ⟨q, List.mem_of_head? hends, rfl⟩
    rw [reading?_of_begins hbegins]
    exact congrArg some hgroups

/-! ## Along the text -/

/-- The amount and the word that the first token gives which gives any. -/
def scan : List (List Char) → Option (Option (List Char) × List Char)
  | [] => none
  | token :: later => (tokenFirst (token :: later)).or (scan later)

/-- The words that begin in a text, when it goes on from a character that is no blank. -/
def behind (cs : List Char) : List (List Char) :=
  if cs.head?.any fun c => !isBlank c then (words cs).tail else words cs

theorem behind_cons (c : Char) (cs : List Char) :
    behind (c :: cs) = if isBlank c then words cs else behind cs := by
  cases hc : isBlank c with
  | true =>
    rw [behind, if_neg (by simp [hc]), words_cons_blank hc]
    rfl
  | false =>
    rw [if_neg Bool.false_ne_true, behind, if_pos (by simp [hc]), behind]
    cases cs with
    | nil =>
      rw [words_of_not_blank (List.cons_ne_nil c []) (by simpa using hc), words_nil]
      rfl
    | cons e es =>
      cases he : isBlank e with
      | true =>
        have hwords : words ([c] ++ e :: es) = [c] :: words (e :: es) :=
          Text.words_append (List.cons_ne_nil c []) (by simpa using hc) (by rintro _ ⟨⟩; exact he)
        rw [if_neg (by simp [he]), ← List.singleton_append, hwords]
        rfl
      | false =>
        obtain ⟨w, ws, hwords, hnext⟩ := words_cons_next hc he es
        rw [if_pos (by simp [he]), hwords, hnext]
        rfl

theorem tokenFirst_of_unit {word : List Char} (h : IsUnitWord word) (later : List (List Char)) :
    tokenFirst (word :: later) = some (none, word) := by
  have hnodigits : ∀ c ∈ ([] : List Char), isDecimal c = true := by simp
  obtain ⟨htake, hdrop⟩ := h.cut_digits hnodigits
  rw [List.nil_append] at htake hdrop
  have hne : word ≠ [] := fun hnil => not_isUnitWord_nil (hnil ▸ h)
  simp only [tokenFirst, htake, hdrop, if_neg hne, if_pos h, if_true]

/-- What is read here, or else what is found in the words that begin further on. -/
theorem reading?_or_scan (cs : List Char) : (reading? cs).or (scan (behind cs)) = scan (words cs) := by
  cases cs with
  | nil => rfl
  | cons c cs =>
    cases hc : isBlank c with
    | true =>
      rw [reading?, if_pos (by simp [hc]), behind, if_neg (by simp [hc])]
      cases hfirst : unitFirst (words (c :: cs)) with
      | none => rfl
      | some word =>
        obtain ⟨later, hwords, hword⟩ := unitFirst_eq_some.mp hfirst
        rw [hwords, scan, tokenFirst_of_unit hword]
        rfl
    | false =>
      rw [reading?, if_neg (by simp [hc]), behind, if_pos (by simp [hc])]
      cases hwords : words (c :: cs) with
      | nil => rfl
      | cons token later => rfl

/-- The groups that a match remembers, from what is read. -/
def groupsOf (found : Option (List Char) × List Char) : List (List Char) := found.2 :: found.1.toList

/-- What is read behind a blank. -/
def behindBlank : List Char → Option (Option (List Char) × List Char)
  | [] => none
  | c :: cs => if isBlank c then reading? cs else none

theorem matchAt_groups (before : Option Char) (cs : List Char) :
    (periodPattern.matchAt ⟨before, cs, []⟩).map (fun m => m.2.groups) =
      ((if before.isNone then reading? cs else none).or (behindBlank cs)).map groupsOf := by
  have hmatch : (periodPattern.matchAt ⟨before, cs, []⟩).map (fun m => m.2.groups) =
      (((edgeBefore.ends ⟨before, cs, []⟩).flatMap afterEdge.ends).head?).map Place.groups := by
    rw [matchAt, Option.map_map]
    rfl
  have hedge : edgeBefore.ends ⟨before, cs, []⟩ = (if before.isNone then [⟨before, cs, []⟩] else []) ++
      (Pattern.one isBlank).ends ⟨before, cs, []⟩ := rfl
  have hstart : (((if before.isNone then [(⟨before, cs, []⟩ : Place)] else []).flatMap afterEdge.ends).head?).map
      Place.groups = (if before.isNone then reading? cs else none).map groupsOf := by
    split
    · rw [List.flatMap_singleton]
      exact head?_afterEdge before cs
    · rfl
  have hblank : ((((Pattern.one isBlank).ends ⟨before, cs, []⟩).flatMap afterEdge.ends).head?).map Place.groups =
      (behindBlank cs).map groupsOf := by
    cases cs with
    | nil => rfl
    | cons c cs =>
      rw [ends, behindBlank]
      dsimp only
      split
      · rw [List.flatMap_singleton]
        exact head?_afterEdge (some c) cs
      · rfl
  rw [hmatch, hedge, List.flatMap_append, List.head?_append, Option.map_or, hstart, hblank, Option.map_or]

theorem findFrom_cons_groups (before : Option Char) (c : Char) (cs : List Char) :
    (periodPattern.findFrom before (c :: cs)).map (fun m => m.2.groups) =
      (((if before.isNone then reading? (c :: cs) else none).or (behindBlank (c :: cs))).map groupsOf).or
        ((periodPattern.findFrom (some c) cs).map fun m => m.2.groups) := by
  rw [← matchAt_groups, findFrom]
  cases periodPattern.matchAt ⟨before, c :: cs, []⟩ <;> rfl

theorem behindBlank_or_scan (c : Char) (cs : List Char) :
    (behindBlank (c :: cs)).or (scan (behind cs)) = scan (behind (c :: cs)) := by
  rw [behindBlank, behind_cons]
  split
  · exact reading?_or_scan cs
  · rfl

/-- From a character on, the words that begin further on are searched. -/
theorem findFrom_groups (c : Char) (cs : List Char) :
    (periodPattern.findFrom (some c) cs).map (fun m => m.2.groups) = (scan (behind cs)).map groupsOf := by
  induction cs generalizing c with
  | nil => exact matchAt_groups (some c) []
  | cons e es ih =>
    rw [findFrom_cons_groups, ih, ← Option.map_or]
    exact congrArg (Option.map groupsOf) (behindBlank_or_scan e es)

theorem find?_groups (cs : List Char) :
    (periodPattern.find? cs).map (fun m => m.2.groups) = (scan (words cs)).map groupsOf := by
  cases cs with
  | nil => exact matchAt_groups none []
  | cons c cs =>
    rw [find?, findFrom_cons_groups, findFrom_groups, ← Option.map_or, ← reading?_or_scan, ← behindBlank_or_scan]
    exact congrArg (Option.map groupsOf) (Option.or_assoc ..)

/-! ## The first token that names a unit -/

/-- Digits of any script, if any, and a word for a unit. -/
def IsUnitToken (token : List Char) : Prop :=
  ∃ digits word, token = digits ++ word ∧ (∀ c ∈ digits, isDecimal c = true) ∧ IsUnitWord word

theorem isUnitToken_iff {token : List Char} : IsUnitToken token ↔ IsUnitWord (token.dropWhile isDecimal) := by
  constructor
  · rintro ⟨digits, word, rfl, hdigits, hword⟩
    rwa [(hword.cut_digits hdigits).2]
  · intro hword
    exact ⟨_, _, List.takeWhile_append_dropWhile.symm, fun c hc => List.mem_takeWhile_imp hc, hword⟩

instance (token : List Char) : Decidable (IsUnitToken token) := decidable_of_iff _ isUnitToken_iff.symm

/-- The amount beside a unit: its own digits, or else the token before it if that is only digits. -/
def amountText (earlier : List (List Char)) (digits : List Char) : Option (List Char) :=
  if digits = [] then earlier.getLast?.filter fun token => token.all isDecimal else some digits

variable {token word digits : List Char} {earlier later : List (List Char)}

theorem IsUnitWord.isUnitToken (h : IsUnitWord word) : IsUnitToken word := ⟨[], word, rfl, by simp, h⟩

theorem unitFirst_of_not_unit (h : ¬ IsUnitToken token) (later : List (List Char)) :
    unitFirst (token :: later) = none :=
  if_neg fun hword => h hword.isUnitToken

theorem tokenFirst_of_not_unit (h : ¬ IsUnitToken token) (later : List (List Char)) :
    tokenFirst (token :: later) =
      if token.all isDecimal then (unitFirst later).map fun word => (some token, word) else none := by
  rw [tokenFirst]
  by_cases hall : ∀ c ∈ token, isDecimal c = true
  · rw [if_pos (List.dropWhile_eq_nil_iff.mpr hall), if_pos (List.all_eq_true.mpr hall),
      List.takeWhile_eq_self_iff.mpr hall]
  · rw [if_neg fun hnil => hall (List.dropWhile_eq_nil_iff.mp hnil), if_neg fun hword => h (isUnitToken_iff.mpr hword),
      if_neg fun hdigits => hall (List.all_eq_true.mp hdigits)]

theorem scan_eq_none {ws : List (List Char)} (h : ∀ token ∈ ws, ¬ IsUnitToken token) : scan ws = none := by
  induction ws with
  | nil => rfl
  | cons token later ih =>
    obtain ⟨htoken, hlater⟩ := List.forall_mem_cons.mp h
    have hnext : unitFirst later = none := by
      cases later with
      | nil => rfl
      | cons next later => exact unitFirst_of_not_unit (hlater next List.mem_cons_self) later
    rw [scan, tokenFirst_of_not_unit htoken, hnext, ih hlater]
    split <;> rfl

theorem scan_unit (hdigits : ∀ c ∈ digits, isDecimal c = true) (hword : IsUnitWord word) (later : List (List Char)) :
    scan ((digits ++ word) :: later) = some (amountText [] digits, word) := by
  obtain ⟨htake, hdrop⟩ := hword.cut_digits hdigits
  have hne : word ≠ [] := fun hnil => not_isUnitWord_nil (hnil ▸ hword)
  rw [scan, tokenFirst, htake, hdrop]
  simp only [if_neg hne, if_pos hword]
  rfl

/-- The first token that names a unit decides, with the digits before its word or the token before it. -/
theorem scan_first (hearlier : ∀ token ∈ earlier, ¬ IsUnitToken token) (hdigits : ∀ c ∈ digits, isDecimal c = true)
    (hword : IsUnitWord word) (later : List (List Char)) :
    scan (earlier ++ (digits ++ word) :: later) = some (amountText earlier digits, word) := by
  induction earlier with
  | nil => exact scan_unit hdigits hword later
  | cons token earlier ih =>
    obtain ⟨htoken, hearlier⟩ := List.forall_mem_cons.mp hearlier
    rw [List.cons_append, scan, tokenFirst_of_not_unit htoken, ih hearlier]
    cases earlier with
    | nil =>
      -- only a token of digits alone, right before a word alone, is its amount
      cases digits with
      | nil =>
        have hfirst : unitFirst (word :: later) = some word := if_pos hword
        rw [List.nil_append, List.nil_append, hfirst]
        have htext : amountText [token] [] = if token.all isDecimal then some token else none := rfl
        rw [htext]
        split <;> rfl
      | cons d ds =>
        have hnot : ¬ IsUnitWord (d :: ds ++ word) := fun h =>
          absurd (h.of_mem List.mem_cons_self).2 (by simp [hdigits d List.mem_cons_self])
        have hfirst : unitFirst ((d :: ds ++ word) :: later) = none := if_neg hnot
        rw [List.nil_append, hfirst]
        split <;> rfl
    | cons next earlier =>
      rw [List.cons_append, unitFirst_of_not_unit (hearlier next List.mem_cons_self)]
      split <;> rfl

/-! ## The period -/

theorem findPeriod_eq_some {text : String} {amount : Nat} {unit : Unit} :
    findPeriod text = some (amount, unit) ↔ ∃ digits word, scan (words text.toList) = some (digits, word) ∧
      amount? digits = some amount ∧ Unit.ofWord? (String.ofList word) = some unit ∧ 0 < amount := by
  have hgroups := find?_groups text.toList
  cases hfind : periodPattern.find? text.toList with
  | none =>
    have hscan : scan (words text.toList) = none := by
      rw [hfind] at hgroups
      exact Option.map_eq_none_iff.mp hgroups.symm
    have hnone : findPeriod text = none := by
      rw [findPeriod, hfind]
      rfl
    simp [hnone, hscan]
  | some found =>
    obtain ⟨_, before, rest, groups⟩ := found
    rw [hfind] at hgroups
    obtain ⟨⟨digits, word⟩, hscan, rfl⟩ := Option.map_eq_some_iff.mp hgroups.symm
    have hchecked : findPeriod text = (amount? digits >>= fun n => Unit.ofWord? (String.ofList word) >>= fun u =>
        if n > 0 then some (n, u) else none) := by
      rw [findPeriod, hfind]
      cases digits <;> rfl
    rw [hchecked, check_eq_some, hscan]
    constructor
    · intro h
      exact ⟨digits, word, rfl, h⟩
    · rintro ⟨digits', word', heq, h⟩
      cases heq
      exact h

/-- The amount that a text gives: one where there is none, else a positive number in ASCII digits, below 2³². -/
def IsAmount : Option (List Char) → Nat → Prop
  | none, n => n = 1
  | some digits, n => (∀ c ∈ digits, isAsciiDigit c = true) ∧ Decimal.digitsValue digits = n ∧ 0 < n ∧ n < 0x100000000

theorem isAmount_iff {found : Option (List Char)} (h : ∀ digits ∈ found, digits ≠ [] ∧ ∀ c ∈ digits, isDecimal c = true)
    (n : Nat) : amount? found = some n ∧ 0 < n ↔ IsAmount found n := by
  cases found with
  | none =>
    simp only [amount?, IsAmount, Option.some.injEq]
    omega
  | some digits =>
    obtain ⟨hne, hdigits⟩ := h digits rfl
    have hsign : ∀ cs, digits ≠ '+' :: cs := by
      rintro cs rfl
      exact Bool.false_ne_true (hdigits '+' List.mem_cons_self)
    have hamount : amount? (some digits) = if digits.isEmpty || !digits.all isAsciiDigit then none
        else if Decimal.digitsValue digits < 0x100000000 then some (Decimal.digitsValue digits) else none := by
      show Decimal.toNatBelow? _ _ = _
      unfold Decimal.toNatBelow?
      rw [String.toList_ofList]
      split
      · exact absurd rfl (hsign _)
      · rfl
    rw [hamount, IsAmount, ← List.all_eq_true]
    cases hall : digits.all isAsciiDigit with
    | false => simp
    | true =>
      have hempty : digits.isEmpty = false := by simpa using hne
      simp only [hempty, Bool.not_true, Bool.or_false, Bool.false_eq_true, if_false, true_and,
        Option.ite_none_right_eq_some, Option.some.injEq]
      omega

/-- A period is found in the words of a text: the first token that names a unit decides. -/
theorem findPeriod_scans (text : String) :
    ((∀ token ∈ words text.toList, ¬ IsUnitToken token) → findPeriod text = none) ∧
    ∀ earlier digits word later, words text.toList = earlier ++ (digits ++ word) :: later →
      (∀ token ∈ earlier, ¬ IsUnitToken token) → (∀ c ∈ digits, isDecimal c = true) → IsUnitWord word →
      ∀ amount unit, findPeriod text = some (amount, unit) ↔
        Unit.ofWord? (String.ofList word) = some unit ∧ IsAmount (amountText earlier digits) amount := by
  constructor
  · intro hnone
    have hscan := scan_eq_none hnone
    refine Option.eq_none_iff_forall_ne_some.mpr fun ⟨amount, unit⟩ hfound => ?_
    obtain ⟨digits, word, hsome, -⟩ := findPeriod_eq_some.mp hfound
    rw [hscan] at hsome
    cases hsome
  · intro earlier digits word later hwords hearlier hdigits hword amount unit
    have hamount : ∀ ds ∈ amountText earlier digits, ds ≠ [] ∧ ∀ c ∈ ds, isDecimal c = true := by
      intro ds hds
      unfold amountText at hds
      split at hds
      · obtain ⟨hlast, hall⟩ := Option.mem_filter_iff.mp hds
        have hmem : ds ∈ words text.toList := by
          rw [hwords]
          exact List.mem_append_left _ (List.mem_of_getLast? hlast)
        exact ⟨(mem_words hmem).1, List.all_eq_true.mp hall⟩
      · rename_i hne
        cases hds
        exact ⟨hne, hdigits⟩
    rw [findPeriod_eq_some, hwords, scan_first hearlier hdigits hword, ← isAmount_iff hamount]
    constructor
    · rintro ⟨_, _, heq, hn, hu, hpos⟩
      cases heq
      exact ⟨hu, hn, hpos⟩
    · rintro ⟨hu, hn, hpos⟩
      exact ⟨_, _, rfl, hn, hu, hpos⟩

/-- The kelvin sign is a letter of `weeks`, whose amount stands before it; a unit inside another
    word is none. -/
theorem findPeriod_scans_kelvin :
    (∀ token ∈ words "5 weekdays".toList, ¬ IsUnitToken token) ∧ findPeriod "5 weekdays" = none ∧
      words "x 12 wee\u212as 3d".toList =
        ["x".toList, "12".toList] ++ ([] ++ "wee\u212as".toList) :: ["3d".toList] ∧
      (∀ token ∈ ["x".toList, "12".toList], ¬ IsUnitToken token) ∧ IsUnitWord "wee\u212as".toList ∧
      findPeriod "x 12 wee\u212as 3d" = some (12, .week) := by
  have hnone : ∀ token ∈ words "5 weekdays".toList, ¬ IsUnitToken token := by decide
  have hwords : words "x 12 wee\u212as 3d".toList =
      ["x".toList, "12".toList] ++ ([] ++ "wee\u212as".toList) :: ["3d".toList] := by decide
  have hearlier : ∀ token ∈ ["x".toList, "12".toList], ¬ IsUnitToken token := by decide
  have hword : IsUnitWord "wee\u212as".toList := by decide
  have hunit : Unit.ofWord? (String.ofList "wee\u212as".toList) = some .week := by decide
  have hamount : IsAmount (amountText ["x".toList, "12".toList] []) 12 := by
    have htext : amountText ["x".toList, "12".toList] [] = some "12".toList := by decide
    rw [htext]
    exact ⟨List.all_eq_true.mp rfl, by decide, by decide, by decide⟩
  obtain ⟨hnowhere, -⟩ := findPeriod_scans "5 weekdays"
  obtain ⟨-, hfirst⟩ := findPeriod_scans "x 12 wee\u212as 3d"
  exact ⟨hnone, hnowhere hnone, hwords, hearlier, hword,
    (hfirst _ [] _ _ hwords hearlier (by simp) hword 12 .week).mpr ⟨hunit, hamount⟩⟩

end ChatBot.TimeRange
