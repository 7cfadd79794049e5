/-
  ChatBot.Proofs.Text.Bytes — cutting a text at bytes.

  A text can be cut at a byte exactly when it is the end of some first part
  (`splitAtByte?_eq_some`), and then its two parts are the only ones. So a slice is the
  piece that stands between two such bytes (`slice?_eq_some`), and it has the bytes that
  the string has there (`toByteArray_slice`).
-/
import ChatBot.Token

namespace ChatBot

variable {cs head rest piece : List Char} {n start stop : Nat}

/-! ## Counting bytes -/

theorem byteWidth_append (xs ys : List Char) : byteWidth (xs ++ ys) = byteWidth xs + byteWidth ys := by
  induction xs with
  | nil => rw [List.nil_append, byteWidth, Nat.zero_add]
  | cons x xs ih => rw [List.cons_append, byteWidth, byteWidth, ih, Nat.add_assoc]

theorem byteWidth_eq_zero (h : byteWidth cs = 0) : cs = [] := by
  cases cs with
  | nil => rfl
  | cons c cs =>
    have hpos := c.utf8Size_pos
    unfold byteWidth at h
    omega

theorem utf8ByteSize_ofList (cs : List Char) : (String.ofList cs).utf8ByteSize = byteWidth cs := by
  induction cs with
  | nil => rfl
  | cons c cs ih =>
    rw [← List.singleton_append, String.ofList_append, String.utf8ByteSize_append, ih, byteWidth_append]
    simp [byteWidth]

theorem byteWidth_toList (s : String) : byteWidth s.toList = s.utf8ByteSize := by
  rw [← utf8ByteSize_ofList, String.ofList_toList]

/-- Of two beginnings of a text the one with fewer bytes begins the other. -/
theorem exists_append_of_byteWidth_le {front cs before after : List Char} (h : front ++ cs = before ++ after)
    (hle : byteWidth front ≤ byteWidth before) : ∃ gap, before = front ++ gap ∧ cs = gap ++ after := by
  rcases List.append_eq_append_iff.mp h with ⟨gap, hbefore, hcs⟩ | ⟨gap, hfront, hafter⟩
  · exact ⟨gap, hbefore, hcs⟩
  · have hwidth := byteWidth_append before gap
    rw [← hfront] at hwidth
    obtain rfl : gap = [] := byteWidth_eq_zero (by omega)
    exact ⟨[], by simpa using hfront.symm, by simpa using hafter.symm⟩

/-! ## Where a text can be cut -/

theorem splitAtByte?_append (head rest : List Char) : splitAtByte? (byteWidth head) (head ++ rest) = some (head, rest) := by
  induction head with
  | nil =>
    show splitAtByte? 0 rest = some ([], rest)
    unfold splitAtByte?
    rfl
  | cons c head ih =>
    obtain ⟨n, hn⟩ : ∃ n, byteWidth (c :: head) = n + 1 := ⟨byteWidth (c :: head) - 1, by
      have := c.utf8Size_pos
      unfold byteWidth
      omega⟩
    have hle : c.utf8Size ≤ n + 1 := by
      rw [← hn]
      exact Nat.le_add_right _ _
    have hbehind : n + 1 - c.utf8Size = byteWidth head := by
      rw [← hn]
      exact Nat.add_sub_cancel_left _ _
    rw [hn, List.cons_append, splitAtByte?, if_pos hle, hbehind, ih]
    rfl

theorem splitAtByte?_eq_some :
    splitAtByte? n cs = some (head, rest) ↔ cs = head ++ rest ∧ byteWidth head = n := by
  constructor
  · intro h
    fun_induction splitAtByte? n cs generalizing head with
    | case1 cs =>
      cases h
      exact ⟨rfl, rfl⟩
    | case2 => cases h
    | case3 n c cs hle ih =>
      obtain ⟨parts, hparts, heq⟩ := Option.map_eq_some_iff.mp h
      obtain ⟨rfl, rfl⟩ := Prod.mk.inj heq
      obtain ⟨hcs, hwidth⟩ := ih hparts
      refine ⟨by rw [hcs, List.cons_append], ?_⟩
      rw [byteWidth, hwidth]
      omega
    | case4 => cases h
  · intro h
    rw [h.1, ← h.2]
    exact splitAtByte?_append head rest

theorem slice?_eq_some : slice? cs start stop = some piece ↔
    ∃ before after, cs = before ++ piece ++ after ∧ byteWidth before = start ∧ start + byteWidth piece = stop := by
  unfold slice?
  constructor
  · intro h
    split at h
    · rename_i hle
      obtain ⟨⟨before, rest⟩, hbefore, hrest⟩ := Option.bind_eq_some_iff.mp h
      obtain ⟨⟨found, after⟩, hfound, rfl⟩ := Option.map_eq_some_iff.mp hrest
      obtain ⟨hcs, hstart⟩ := splitAtByte?_eq_some.mp hbefore
      obtain ⟨hpiece, hwidth⟩ := splitAtByte?_eq_some.mp hfound
      refine ⟨before, after, ?_, hstart, ?_⟩
      · rw [List.append_assoc, ← hpiece]
        exact hcs
      · show start + byteWidth found = stop
        omega
    · cases h
  · intro h
    obtain ⟨before, after, hcs, hstart, hstop⟩ := h
    have hbefore : splitAtByte? start cs = some (before, piece ++ after) :=
      splitAtByte?_eq_some.mpr ⟨by rw [hcs, List.append_assoc], hstart⟩
    have hpiece : splitAtByte? (stop - start) (piece ++ after) = some (piece, after) :=
      splitAtByte?_eq_some.mpr ⟨rfl, by omega⟩
    rw [if_pos (by omega), hbefore, Option.bind_some, hpiece]
    rfl

/-! ## The bytes of the string -/

section

variable {s : String}

/-- A text can be cut at a byte exactly where a character begins or the string ends. -/
theorem isValid_iff_splitAtByte? : String.Pos.Raw.IsValid s ⟨n⟩ ↔ splitAtByte? n s.toList ≠ none := by
  rw [String.Pos.Raw.isValid_iff_exists_append]
  constructor
  · intro h
    obtain ⟨before, after, rfl, hplace⟩ := h
    have hwidth : byteWidth before.toList = n := by
      rw [byteWidth_toList]
      exact (congrArg String.Pos.Raw.byteIdx hplace).symm
    rw [splitAtByte?_eq_some.mpr ⟨String.toList_append, hwidth⟩]
    simp
  · intro h
    obtain ⟨⟨before, after⟩, hparts⟩ := Option.ne_none_iff_exists'.mp h
    obtain ⟨hs, hwidth⟩ := splitAtByte?_eq_some.mp hparts
    refine ⟨String.ofList before, String.ofList after, ?_, ?_⟩
    · rw [← String.ofList_append, ← hs, String.ofList_toList]
    · rw [String.Pos.Raw.ext_iff, ← hwidth, ← utf8ByteSize_ofList]
      rfl

/-- A slice has the bytes of the string from its start up to its end. -/
theorem toByteArray_slice (h : slice? s.toList start stop = some piece) :
    s.toByteArray.extract start stop = (String.ofList piece).toByteArray := by
  obtain ⟨before, after, hs, hstart, hstop⟩ := slice?_eq_some.mp h
  have hbefore : start = (String.ofList before).toByteArray.size := by
    rw [String.size_toByteArray, utf8ByteSize_ofList, hstart]
  have hpiece : byteWidth piece = (String.ofList piece).toByteArray.size := by
    rw [String.size_toByteArray, utf8ByteSize_ofList]
  rw [← String.ofList_toList (s := s), hs, List.append_assoc, String.ofList_append, String.toByteArray_append, ← hstop]
  have hskip := ByteArray.extract_append_size_add' (i := 0) (j := byteWidth piece)
    (b := (String.ofList (piece ++ after)).toByteArray) hbefore
  rw [Nat.add_zero] at hskip
  rw [hskip, String.ofList_append, String.toByteArray_append]
  exact ByteArray.extract_append_eq_left hpiece

end

end ChatBot
