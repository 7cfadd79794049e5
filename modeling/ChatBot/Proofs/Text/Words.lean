/-
  ChatBot.Proofs.Text.Words — the words of a text.

  A blank ends a word and belongs to none (`words_append_blank`); the rest follows from
  that. A word that stands between blanks can be found again in the text
  (`append_word_inj`).
-/
import ChatBot.Text.Blank

namespace ChatBot

open Text

namespace Text

variable {c : Char} {w cs : List Char} {a b : String} {ws : List String}

theorem words_nil : words [] = [] := by simp [words, List.splitOnP_nil]

theorem words_append_blank (hc : isBlank c = true) (xs ys : List Char) :
    words (xs ++ c :: ys) = words xs ++ words ys := by
  rw [words, words, words, List.splitOnP_append_cons xs ys hc, List.filter_append]

theorem words_cons_blank (hc : isBlank c = true) (cs : List Char) : words (c :: cs) = words cs := by
  simpa [words_nil] using words_append_blank hc [] cs

theorem words_of_not_blank (hne : w ≠ []) (h : ∀ c ∈ w, isBlank c = false) : words w = [w] := by
  rw [words, List.splitOnP_eq_singleton h]
  simp [hne]

theorem words_blank_append {lead : List Char} (h : ∀ c ∈ lead, isBlank c = true) (cs : List Char) :
    words (lead ++ cs) = words cs := by
  induction lead with
  | nil => rfl
  | cons c lead ih =>
    rw [List.cons_append, words_cons_blank (h c List.mem_cons_self)]
    exact ih fun d hd => h d (List.mem_cons_of_mem c hd)

theorem words_blank {gap : List Char} (h : ∀ c ∈ gap, isBlank c = true) : words gap = [] := by
  rw [← List.append_nil gap, words_blank_append h, words_nil]

theorem words_append_blanks (cs : List Char) {gap : List Char} (h : ∀ c ∈ gap, isBlank c = true) :
    words (cs ++ gap) = words cs := by
  cases gap with
  | nil => rw [List.append_nil]
  | cons c gap =>
    have hgap : words gap = [] := words_blank fun d hd => h d (List.mem_cons_of_mem c hd)
    rw [words_append_blank (h c List.mem_cons_self), hgap, List.append_nil]

/-- A word ends at the end of the text or before a blank. -/
theorem words_append (hne : w ≠ []) (h : ∀ c ∈ w, isBlank c = false)
    (hrest : ∀ c, cs.head? = some c → isBlank c = true) : words (w ++ cs) = w :: words cs := by
  cases cs with
  | nil => rw [List.append_nil, words_of_not_blank hne h, words_nil]
  | cons c cs =>
    have hc := hrest c rfl
    rw [words_append_blank hc, words_of_not_blank hne h, words_cons_blank hc, List.singleton_append]

/-- The words of a text that begins with a word, after blanks. -/
theorem wordsOf_append {lead word rest : String} (hlead : isBlankText lead = true) (hne : word ≠ "")
    (h : ∀ c ∈ word.toList, isBlank c = false) (hrest : ∀ c, rest.toList.head? = some c → isBlank c = true) :
    wordsOf (lead ++ word ++ rest) = word :: wordsOf rest := by
  have hword : word.toList ≠ [] := fun h => hne (String.toList_eq_nil_iff.mp h)
  rw [wordsOf, String.toList_append, String.toList_append, List.append_assoc,
    words_blank_append (List.all_eq_true.mp hlead), words_append hword h hrest, List.map_cons, String.ofList_toList]
  rfl

/-! ### One word -/

/-- What can be one word of a text. -/
structure IsWord (s : String) : Prop where
  ne_empty : s ≠ ""
  not_blank : ∀ c ∈ s.toList, isBlank c = false

theorem isWord_of_any (hne : a ≠ "") (h : a.toList.any isBlank = false) : IsWord a :=
  ⟨hne, fun c hc => Bool.eq_false_iff.mpr (List.any_eq_false.mp h c hc)⟩

theorem IsWord.wordsOf_self (h : IsWord a) : wordsOf a = [a] := by
  have hword : wordsOf ("" ++ a ++ "") = a :: wordsOf "" :=
    wordsOf_append rfl h.ne_empty h.not_blank (by simp)
  rwa [String.empty_append, String.append_empty] at hword

theorem IsWord.wordsOf_pair (ha : IsWord a) (hb : IsWord b) : wordsOf (a ++ " " ++ b) = [a, b] := by
  have hsecond : wordsOf (" " ++ b ++ "") = b :: wordsOf "" :=
    wordsOf_append rfl hb.ne_empty hb.not_blank (by simp)
  have hspace : ∀ c, (" " ++ b).toList.head? = some c → isBlank c = true := by
    intro c hc
    obtain rfl : ' ' = c := by simpa using hc
    rfl
  have hfirst : wordsOf ("" ++ a ++ (" " ++ b)) = a :: wordsOf (" " ++ b) :=
    wordsOf_append rfl ha.ne_empty ha.not_blank hspace
  rw [String.append_empty] at hsecond
  rw [String.empty_append, hsecond] at hfirst
  rw [String.append_assoc]
  exact hfirst

theorem IsWord.toList_ne_nil (h : IsWord a) : a.toList ≠ [] := fun hnil => h.ne_empty (String.toList_eq_nil_iff.mp hnil)

theorem IsWord.exists_head (h : IsWord a) : ∃ c rest, a.toList = c :: rest ∧ isBlank c = false := by
  obtain ⟨c, rest, hc⟩ := List.exists_cons_of_ne_nil h.toList_ne_nil
  exact ⟨c, rest, hc, h.not_blank c (hc ▸ List.mem_cons_self)⟩

theorem isWord_ofList (hne : w ≠ []) (h : ∀ c ∈ w, isBlank c = false) : IsWord (String.ofList w) := by
  constructor
  · intro hnil
    rw [← String.toList_inj, String.toList_ofList] at hnil
    exact hne hnil
  · intro c hc
    rw [String.toList_ofList] at hc
    exact h c hc

/-- A run of characters of one kind ends where the kind does. -/
theorem append_run_inj {p : Char → Bool} {xs ys xs' ys' : List Char} (h : xs ++ ys = xs' ++ ys')
    (hxs : ∀ c ∈ xs, p c = true) (hys : ∀ c, ys.head? = some c → p c = false)
    (hxs' : ∀ c ∈ xs', p c = true) (hys' : ∀ c, ys'.head? = some c → p c = false) : xs = xs' ∧ ys = ys' := by
  have hrun : ∀ zs : List Char, (∀ c, zs.head? = some c → p c = false) → zs.takeWhile p = [] := by
    intro zs hzs
    cases zs with
    | nil => rfl
    | cons z zs => simp [hzs z rfl]
  have htake := congrArg (List.takeWhile p) h
  rw [List.takeWhile_append_of_pos hxs, List.takeWhile_append_of_pos hxs', hrun ys hys, hrun ys' hys',
    List.append_nil, List.append_nil] at htake
  rw [htake] at h
  exact ⟨htake, List.append_cancel_left h⟩

/-- Between blanks and the blank or the end behind it, a word can be found again. -/
theorem append_word_inj {gap gap' rest rest' : List Char}
    (h : gap ++ a.toList ++ rest = gap' ++ b.toList ++ rest')
    (hgap : ∀ c ∈ gap, isBlank c = true) (ha : IsWord a) (hrest : ∀ c, rest.head? = some c → isBlank c = true)
    (hgap' : ∀ c ∈ gap', isBlank c = true) (hb : IsWord b)
    (hrest' : ∀ c, rest'.head? = some c → isBlank c = true) : gap = gap' ∧ a = b ∧ rest = rest' := by
  have hhead : ∀ (u : String) (cs : List Char), IsWord u → ∀ c, (u.toList ++ cs).head? = some c → isBlank c = false := by
    intro u cs hu c hc
    obtain ⟨d, tail, hd, hblank⟩ := hu.exists_head
    rw [hd] at hc
    cases hc
    exact hblank
  rw [List.append_assoc, List.append_assoc] at h
  obtain ⟨hsame, hbehind⟩ := append_run_inj h hgap (hhead a rest ha) hgap' (hhead b rest' hb)
  obtain ⟨hword, hlast⟩ := append_run_inj (p := fun c => !isBlank c) hbehind
    (by simpa using ha.not_blank) (by simpa using hrest) (by simpa using hb.not_blank) (by simpa using hrest')
  exact ⟨hsame, String.toList_injective hword, hlast⟩

/-! ### What words are, and words joined by a space -/

theorem isBlank_of_mem_splitOnP (h : w ∈ cs.splitOnP isBlank) : ∀ c ∈ w, isBlank c = false := by
  induction cs generalizing w with
  | nil =>
    rw [List.splitOnP_nil, List.mem_singleton] at h
    simp [h]
  | cons c cs ih =>
    rw [List.splitOnP_cons_eq_if_modifyHead] at h
    obtain ⟨first, others, hsplit⟩ := List.exists_cons_of_ne_nil (List.splitOnP_ne_nil isBlank cs)
    rw [hsplit] at h ih
    split at h
    · rcases List.mem_cons.mp h with rfl | h
      · simp
      · exact ih h
    · rename_i hc
      rcases List.mem_cons.mp h with rfl | h
      · exact List.forall_mem_cons.mpr ⟨by simpa using hc, ih List.mem_cons_self⟩
      · exact ih (List.mem_cons_of_mem _ h)

/-- A word is not empty and has no blank in it. -/
theorem mem_words (h : w ∈ words cs) : w ≠ [] ∧ ∀ c ∈ w, isBlank c = false := by
  obtain ⟨hsplit, hne⟩ := List.mem_filter.mp h
  exact ⟨by simpa using hne, isBlank_of_mem_splitOnP hsplit⟩

theorem mem_wordsOf {text w : String} (h : w ∈ wordsOf text) : IsWord w := by
  obtain ⟨cs, hcs, rfl⟩ := List.mem_map.mp h
  obtain ⟨hne, hblank⟩ := mem_words hcs
  exact isWord_ofList hne hblank

theorem isBlankText_of_mem_wordsOf {text w : String} (h : w ∈ wordsOf text) : isBlankText w = false := by
  obtain ⟨c, rest, hw, hc⟩ := (mem_wordsOf h).exists_head
  simp [isBlankText, hw, hc]

theorem unwords_concat (hne : ws ≠ []) (s : String) : unwords (ws ++ [s]) = unwords ws ++ " " ++ s := by
  rw [unwords, String.intercalate_append_of_ne_nil hne (List.cons_ne_nil s []), String.intercalate_singleton]
  rfl

/-- Words that are joined are found again. -/
theorem words_unwords (h : ∀ w ∈ ws, w.toList ≠ [] ∧ ∀ c ∈ w.toList, isBlank c = false) :
    words (unwords ws).toList = ws.map String.toList := by
  induction ws with
  | nil => rfl
  | cons w ws ih =>
    obtain ⟨⟨hne, hw⟩, hws⟩ := List.forall_mem_cons.mp h
    cases ws with
    | nil => rw [unwords, String.intercalate_singleton, words_of_not_blank hne hw]; rfl
    | cons w' ws =>
      have hspace : (unwords (w :: w' :: ws)).toList = w.toList ++ ' ' :: (unwords (w' :: ws)).toList := by
        rw [unwords, String.intercalate_cons_cons, String.toList_append, String.toList_append, List.append_assoc]
        rfl
      rw [hspace, words_append_blank (by decide), words_of_not_blank hne hw, ih hws]
      rfl

theorem wordsOf_unwords (h : ∀ w ∈ ws, IsWord w) : wordsOf (unwords ws) = ws := by
  rw [wordsOf, words_unwords fun w hw => ⟨(h w hw).toList_ne_nil, (h w hw).not_blank⟩, List.map_map]
  exact List.map_id'' (fun _ => String.ofList_toList) ws

end Text

end ChatBot
