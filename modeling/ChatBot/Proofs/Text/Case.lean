/-
  ChatBot.Proofs.Text.Case — the two ways to compare texts up to case.

  `alike` folds ASCII letters, `lower` maps all of Unicode. Texts that are alike have the
  same lowercase (`lower_eq_of_alike`), the sigmas included, because whether a sigma ends a
  word does not depend on the case of the ASCII letters beside it. The converse holds among
  ASCII texts (`alike_of_lower_eq`). What `dropAlike` drops is alike to the head that was
  asked for (`dropAlike_eq_some`).
-/
import ChatBot.Text.Ascii
import ChatBot.Text.Blank
import ChatBot.Text.CaseMap

namespace ChatBot.Text

variable {a b c : String}

/-! ## Alike -/

theorem alike_iff : alike a b = true ↔ a.toList.map Char.toLower = b.toList.map Char.toLower := beq_iff_eq

theorem alike_symm (h : alike a b = true) : alike b a = true := alike_iff.mpr (alike_iff.mp h).symm

theorem alike_trans (h : alike a b = true) (h' : alike b c = true) : alike a c = true :=
  alike_iff.mpr ((alike_iff.mp h).trans (alike_iff.mp h'))

/-- Nothing tells texts apart that are alike. -/
theorem alike_congr (h : alike a b = true) : (alike · a) = (alike · b) := by
  funext s
  rw [alike, alike, alike_iff.mp h]

/-- A text goes on after what is alike to the head. -/
theorem dropAlike_eq_some {head cs rest : List Char} : dropAlike head cs = some rest ↔
    ∃ tag, cs = tag ++ rest ∧ tag.map Char.toLower = head.map Char.toLower := by
  induction head generalizing cs with
  | nil =>
    rw [dropAlike, Option.some.injEq]
    constructor
    · rintro rfl
      exact ⟨[], rfl, rfl⟩
    · rintro ⟨tag, rfl, htag⟩
      rw [List.map_eq_nil_iff.mp htag, List.nil_append]
  | cons h hs ih => cases cs with
    | nil =>
      refine iff_of_false (fun hnone => by cases hnone) ?_
      rintro ⟨tag, hcs, htag⟩
      rw [(List.append_eq_nil_iff.mp hcs.symm).1] at htag
      cases htag
    | cons c cs =>
      have hcons : (∃ tag, c :: cs = tag ++ rest ∧ tag.map Char.toLower = (h :: hs).map Char.toLower) ↔
          h.toLower = c.toLower ∧ dropAlike hs cs = some rest := by
        rw [ih]
        constructor
        · rintro ⟨tag, hcs, htag⟩
          cases tag with
          | nil => cases htag
          | cons t tag =>
            obtain ⟨rfl, rfl⟩ := List.cons.inj hcs
            obtain ⟨hc, htag⟩ := List.cons.inj htag
            exact ⟨hc.symm, tag, rfl, htag⟩
        · rintro ⟨hc, tag, rfl, htag⟩
          exact ⟨c :: tag, rfl, by rw [List.map_cons, List.map_cons, htag, hc]⟩
      rw [hcons, dropAlike]
      split
      · rename_i hc
        exact (and_iff_right (beq_iff_eq.mp hc)).symm
      · rename_i hc
        exact iff_of_false (fun hnone => by cases hnone) fun h => hc (beq_iff_eq.mpr h.1)

/-! ## ASCII letters -/

theorem toNat_letter : ∀ n < 26, (Char.ofNat (n + 97)).toNat = n + 97 ∧ (Char.ofNat (n + 65)).toNat = n + 65 := by
  decide

theorem toLower_capital {n : Nat} (h : n < 26) : (Char.ofNat (n + 65)).toLower = Char.ofNat (n + 97) := by
  revert n
  decide

theorem toLower_of_not_capital {c : Char} (h : ¬ (65 ≤ c.toNat ∧ c.toNat ≤ 90)) : c.toLower = c :=
  dif_neg (show ¬ (c.val ≥ 'A'.val ∧ c.val ≤ 'Z'.val) from h)

/-- What holds of a character and itself, and of a letter and its capital, holds of `c.toLower` and `c`. -/
theorem toLower_rec {P : Char → Char → Prop} (hrefl : ∀ c, P c c)
    (hletter : ∀ n < 26, P (Char.ofNat (n + 97)) (Char.ofNat (n + 65))) (c : Char) : P c.toLower c := by
  by_cases h : 65 ≤ c.toNat ∧ c.toNat ≤ 90
  · have hc : c = Char.ofNat (c.toNat - 65 + 65) := by
      rw [Nat.sub_add_cancel h.1, Char.ofNat_toNat]
    rw [hc, toLower_capital (by omega)]
    exact hletter _ (by omega)
  · rw [toLower_of_not_capital h]
    exact hrefl c

theorem isBlank_toLower (c : Char) : isBlank c.toLower = isBlank c :=
  toLower_rec (P := fun d c => isBlank d = isBlank c) (fun _ => rfl) (by decide) c

theorem utf8Size_toLower (c : Char) : c.toLower.utf8Size = c.utf8Size :=
  toLower_rec (P := fun d c => d.utf8Size = c.utf8Size) (fun _ => rfl) (by decide) c

theorem isCased_toLower (c : Char) : isCased c.toLower = isCased c :=
  toLower_rec (P := fun d c => isCased d = isCased c) (fun _ => rfl) (by decide) c

/-- Case ignores no ASCII letter: the ranges leave them out. -/
theorem not_isCaseIgnorable_letter {n : Nat} (h : 65 ≤ n ∧ n ≤ 90 ∨ 97 ≤ n ∧ n ≤ 122) :
    inRanges caseIgnorableRanges n = false := by
  have hout : ∀ r ∈ caseIgnorableRanges, r.2 < 65 ∨ 122 < r.1 ∨ 90 < r.1 ∧ r.2 < 97 := by set_option maxRecDepth 2000 in decide
  refine List.any_eq_false.mpr fun r hr => ?_
  have := hout r hr
  simp only [Bool.and_eq_true, decide_eq_true_eq]
  omega

theorem isCaseIgnorable_toLower (c : Char) : isCaseIgnorable c.toLower = isCaseIgnorable c := by
  refine toLower_rec (P := fun d c => isCaseIgnorable d = isCaseIgnorable c) (fun _ => rfl) (fun n hn => ?_) c
  rw [isCaseIgnorable, isCaseIgnorable, (toNat_letter n hn).1, (toNat_letter n hn).2,
    not_isCaseIgnorable_letter (by omega), not_isCaseIgnorable_letter (by omega)]

theorem lowerChar_toLower (c : Char) : lowerChar c.toLower = lowerChar c :=
  toLower_rec (P := fun d c => lowerChar d = lowerChar c) (fun _ => rfl) (by decide) c

theorem isSigma_toLower (c : Char) : (c.toLower.toNat == 0x3a3) = (c.toNat == 0x3a3) :=
  toLower_rec (P := fun d c => (d.toNat == 0x3a3) = (c.toNat == 0x3a3)) (fun _ => rfl) (by decide) c

/-! ## Lowercase -/

theorem startsCased_map_toLower (cs : List Char) : startsCased (cs.map Char.toLower) = startsCased cs := by
  induction cs with
  | nil => rfl
  | cons c cs ih =>
    unfold startsCased at ih ⊢
    by_cases hc : isCaseIgnorable c = true
    · rw [List.map_cons, List.dropWhile_cons_of_pos (by rw [isCaseIgnorable_toLower]; exact hc),
        List.dropWhile_cons_of_pos hc]
      exact ih
    · rw [List.map_cons, List.dropWhile_cons_of_neg (by rw [isCaseIgnorable_toLower]; exact hc),
        List.dropWhile_cons_of_neg hc]
      exact isCased_toLower c

theorem lowerAfter_map_toLower (before cs : List Char) :
    lowerAfter (before.map Char.toLower) (cs.map Char.toLower) = lowerAfter before cs := by
  induction cs generalizing before with
  | nil => rfl
  | cons c cs ih =>
    rw [List.map_cons, lowerAfter, lowerAfter, isSigma_toLower, lowerChar_toLower, endsWord, endsWord,
      startsCased_map_toLower, startsCased_map_toLower, ← List.map_cons, ih]

/-- Texts that are alike have the same lowercase. -/
theorem lower_eq_of_alike (h : alike a b = true) : lower a = lower b := by
  have hchars : lowerAfter [] a.toList = lowerAfter [] b.toList := by
    rw [← lowerAfter_map_toLower [] a.toList, ← lowerAfter_map_toLower [] b.toList, alike_iff.mp h]
  rw [lower, lower, hchars]

def IsAscii (s : String) : Prop := ∀ c ∈ s.toList, c.toNat < 0x80

instance (s : String) : Decidable (IsAscii s) := List.decidableBAll (fun c : Char => c.toNat < 0x80) s.toList

theorem lowerAfter_of_ascii (before : List Char) {cs : List Char} (h : ∀ c ∈ cs, c.toNat < 0x80) :
    lowerAfter before cs = cs.map Char.toLower := by
  induction cs generalizing before with
  | nil => rfl
  | cons c cs ih =>
    obtain ⟨hc, hcs⟩ := List.forall_mem_cons.mp h
    have hsigma : (c.toNat == 0x3a3) = false := by
      simp only [beq_eq_false_iff_ne]
      omega
    rw [lowerAfter, hsigma, lowerChar, if_pos hc, ih _ hcs]
    rfl

/-- Among ASCII texts, those with the same lowercase are alike. -/
theorem alike_of_lower_eq (ha : IsAscii a) (hb : IsAscii b) (h : lower a = lower b) : alike a b = true := by
  rw [lower, lower, lowerAfter_of_ascii [] ha, lowerAfter_of_ascii [] hb] at h
  exact alike_iff.mpr (String.ofList_injective h)

/-! ## Bytes -/

theorem utf8ByteSize_ofList_toLower (cs : List Char) :
    (String.ofList (cs.map Char.toLower)).utf8ByteSize = (String.ofList cs).utf8ByteSize := by
  induction cs with
  | nil => rfl
  | cons c cs ih =>
    rw [List.map_cons, ← List.singleton_append, ← List.singleton_append (x := c), String.ofList_append,
      String.ofList_append, String.utf8ByteSize_append, String.utf8ByteSize_append, ih]
    simp [utf8Size_toLower]

/-- Texts that are alike have as many bytes. -/
theorem utf8ByteSize_eq_of_alike (h : alike a b = true) : a.utf8ByteSize = b.utf8ByteSize := by
  have hsize := utf8ByteSize_ofList_toLower a.toList
  rw [alike_iff.mp h, utf8ByteSize_ofList_toLower, String.ofList_toList, String.ofList_toList] at hsize
  exact hsize.symm

/-! ## Blanks -/

theorem all_not_blank_of_alike (h : alike a b = true) (ha : ∀ c ∈ a.toList, isBlank c = false) :
    ∀ c ∈ b.toList, isBlank c = false := by
  intro c hc
  have hmem : c.toLower ∈ a.toList.map Char.toLower := by
    rw [alike_iff.mp h]
    exact List.mem_map_of_mem hc
  obtain ⟨d, hd, hdc⟩ := List.mem_map.mp hmem
  rw [← isBlank_toLower, ← hdc, isBlank_toLower]
  exact ha d hd

theorem toList_ne_nil_of_alike (h : alike a b = true) (ha : a.toList ≠ []) : b.toList ≠ [] := by
  intro hb
  have hmap := alike_iff.mp h
  rw [hb] at hmap
  exact ha (List.map_eq_nil_iff.mp hmap)

end ChatBot.Text
