/-
  ChatBot.Proofs.Text.Cut — a text cut in two before one of its words.

  A cut lies before a word and after a blank, or at an end of the text (`Cut`). The words
  and the tokens on both sides are those of the whole (`Cut.words`, `Token.exists_tokens`),
  and the first token behind the cut starts at the byte where the text is cut. Any text can
  be cut behind any number of its words (`exists_cut`). Blanks at the end make no words, so
  nothing but blanks is lost when they are dropped (`words_trimEnd`).
-/
import ChatBot.Invocation
import ChatBot.Proofs.Text.Tokens

namespace ChatBot

open Text

namespace Text

variable {c : Char} {before start rest cs gap : List Char}

/-! ## Blanks between and behind words -/

theorem exists_last_blank (hne : gap ≠ []) (h : ∀ c ∈ gap, isBlank c = true) :
    ∃ front c, gap = front ++ [c] ∧ isBlank c = true :=
  ⟨gap.dropLast, gap.getLast hne, (List.dropLast_concat_getLast hne).symm, h _ (List.getLast_mem hne)⟩

theorem isBlank_of_mem_takeWhile (h : c ∈ cs.takeWhile isBlank) : isBlank c = true :=
  List.all_eq_true.mp List.all_takeWhile c h

theorem isBlank_of_head?_dropWhile (h : (cs.dropWhile isBlank).head? = some c) : isBlank c = false := by
  have := List.head?_dropWhile_not isBlank cs
  rwa [h] at this

/-! ## Where a text is cut -/

/-- The second part begins with a word, which no word of the first part touches. -/
structure Cut (before rest : List Char) : Prop where
  starts : ∀ c, rest.head? = some c → isBlank c = false
  apart : rest = [] ∨ before = [] ∨ ∃ front c, before = front ++ [c] ∧ isBlank c = true

theorem cut_end (cs : List Char) : Cut cs [] := ⟨by simp, .inl rfl⟩

theorem Cut.of_append (h : Cut before (start ++ rest)) : Cut before start := by
  refine ⟨fun c hc => h.starts c (by rw [List.head?_append, hc]; rfl), ?_⟩
  exact h.apart.imp_left fun hnil => (List.append_eq_nil_iff.mp hnil).1

/-- More may stand before the first part. -/
theorem Cut.append (h : Cut start rest) (hne : start ≠ []) (before : List Char) : Cut (before ++ start) rest := by
  refine ⟨h.starts, h.apart.imp_right fun hstart => .inr ?_⟩
  obtain rfl | ⟨front, c, rfl, hc⟩ := hstart
  · exact absurd rfl hne
  · exact ⟨before ++ front, c, (List.append_assoc ..).symm, hc⟩

theorem Cut.words (h : Cut before rest) : words (before ++ rest) = words before ++ words rest := by
  rcases h.apart with rfl | rfl | ⟨front, c, rfl, hc⟩
  · rw [List.append_nil, words_nil, List.append_nil]
  · rw [words_nil, List.nil_append, List.nil_append]
  · rw [List.append_assoc, List.singleton_append, words_append_blank hc, words_append_blank hc, words_nil,
      List.append_nil]

/-- A text that begins with a word can be cut behind that word. -/
theorem exists_first_word (hc : isBlank c = false) (cs : List Char) :
    ∃ start rest, c :: cs = start ++ rest ∧ Cut start rest ∧ ∃ word, words start = [word] := by
  let word := (c :: cs).takeWhile fun d => !isBlank d
  let behind := (c :: cs).dropWhile fun d => !isBlank d
  have hne : word ≠ [] := by simp [word, hc]
  have hword : ∀ d ∈ word, isBlank d = false := by
    intro d hd
    simpa using List.all_eq_true.mp List.all_takeWhile d hd
  have hgap : ∀ d ∈ behind.takeWhile isBlank, isBlank d = true := fun d hd => isBlank_of_mem_takeWhile hd
  refine ⟨word ++ behind.takeWhile isBlank, behind.dropWhile isBlank, ?_, ⟨fun d => isBlank_of_head?_dropWhile, ?_⟩,
    word, ?_⟩
  · rw [List.append_assoc, List.takeWhile_append_dropWhile, List.takeWhile_append_dropWhile]
  · -- behind the word there is nothing, or a blank
    cases hbehind : behind with
    | nil => exact .inl rfl
    | cons d ds =>
      have hd : isBlank d = true := by
        have := List.head?_dropWhile_not (fun d => !isBlank d) (c :: cs)
        rw [show (c :: cs).dropWhile (fun d => !isBlank d) = d :: ds from hbehind] at this
        simpa using this
      obtain ⟨front, e, hlast, he⟩ := exists_last_blank (by rw [hbehind]; simp [hd]) hgap
      exact .inr (.inr ⟨word ++ front, e, by rw [← hbehind, hlast, List.append_assoc], he⟩)
  · rw [words_append_blanks _ hgap, words_of_not_blank hne hword]

/-- A text can be cut behind any number of its words. -/
theorem exists_cut (cs : List Char) (n : Nat) :
    ∃ before rest, cs = before ++ rest ∧ Cut before rest ∧ words before = (words cs).take n := by
  induction n with
  | zero =>
    have hlead : ∀ c ∈ cs.takeWhile isBlank, isBlank c = true := fun c => isBlank_of_mem_takeWhile
    refine ⟨cs.takeWhile isBlank, cs.dropWhile isBlank, List.takeWhile_append_dropWhile.symm,
      ⟨fun c => isBlank_of_head?_dropWhile, .inr ?_⟩, words_blank hlead⟩
    by_cases hnil : cs.takeWhile isBlank = []
    · exact .inl hnil
    · exact .inr (exists_last_blank hnil hlead)
  | succ n ih =>
    obtain ⟨before, rest, rfl, hcut, hwords⟩ := ih
    have hlength := congrArg List.length hwords
    rw [List.length_take] at hlength
    cases rest with
    | nil =>
      -- there are no more words
      rw [List.append_nil] at hlength
      exact ⟨before, [], rfl, hcut, by rw [List.append_nil, List.take_of_length_le (by omega)]⟩
    | cons c rest =>
      obtain ⟨start, rest', hsplit, hcut', word, hword⟩ := exists_first_word (hcut.starts c rfl) rest
      have hne : start ≠ [] := by
        rintro rfl
        rw [words_nil] at hword
        cases hword
      rw [hsplit] at hcut hlength ⊢
      rw [hcut.words, hcut'.words, hword, List.length_append, List.length_append, List.length_singleton] at hlength
      obtain rfl : n = (words before).length := by omega
      refine ⟨before ++ start, rest', (List.append_assoc ..).symm, hcut'.append hne before, ?_⟩
      rw [hcut.of_append.words, hcut.words, hcut'.words, hword, ← List.append_assoc]
      exact (List.take_left' (by rw [List.length_append, List.length_singleton])).symm

/-! ## Without the blanks at the end -/

theorem exists_trimEnd (cs : List Char) : ∃ gap, cs = trimEnd cs ++ gap ∧ ∀ c ∈ gap, isBlank c = true := by
  refine ⟨(cs.reverse.takeWhile isBlank).reverse, ?_, fun c hc => isBlank_of_mem_takeWhile (List.mem_reverse.mp hc)⟩
  rw [trimEnd, ← List.reverse_append, List.takeWhile_append_dropWhile, List.reverse_reverse]

theorem words_trimEnd (cs : List Char) : words (trimEnd cs) = words cs := by
  obtain ⟨gap, hsplit, hgap⟩ := exists_trimEnd cs
  conv => rhs; rw [hsplit, words_append_blanks _ hgap]

theorem isBlank_getLast?_trimEnd (h : (trimEnd cs).getLast? = some c) : isBlank c = false := by
  rw [trimEnd, List.getLast?_reverse] at h
  exact isBlank_of_head?_dropWhile h

theorem trimEnd_eq_self (h : ∀ c, cs.getLast? = some c → isBlank c = false) : trimEnd cs = cs := by
  cases hcs : cs.reverse with
  | nil => rw [List.reverse_eq_nil_iff.mp hcs]; rfl
  | cons c front =>
    have hc : isBlank c = false := h c (by rw [← List.head?_reverse, hcs]; rfl)
    rw [trimEnd, hcs, List.dropWhile_cons_of_neg (by simp [hc]), ← hcs, List.reverse_reverse]

theorem Cut.trimEnd (h : Cut before rest) : Cut before (trimEnd rest) := by
  obtain ⟨gap, hsplit, -⟩ := exists_trimEnd rest
  rw [hsplit] at h
  exact h.of_append

end Text

/-! ## Bytes and tokens on both sides -/

variable {place : Nat} {before rest cs : List Char} {c : Char} {tokens later : List Token}

/-- The text behind its first part begins where that part ends. -/
theorem Invocation.fromByte_append (before rest : List Char) : fromByte (byteWidth before) (before ++ rest) = rest := by
  induction before with
  | nil => cases rest <;> rfl
  | cons c before ih =>
    have hpos : c.utf8Size + byteWidth before ≠ 0 := by have := c.utf8Size_pos; omega
    rw [List.cons_append, byteWidth, fromByte, if_neg hpos, Nat.add_sub_cancel_left, ih]

namespace Token

theorem Layout.eq_nil (h : Layout place [] tokens) : tokens = [] := h.unique (.blanks (by simp))

/-- Where a text ends with a blank, what is put behind it joins no word of it. -/
theorem Layout.append_of_blank (h : Layout place before tokens)
    (hlast : ∀ d, before.getLast? = some d → isBlank d = true)
    (hrest : Layout (place + byteWidth before) rest later) : Layout place (before ++ rest) (tokens ++ later) := by
  induction h with
  | blanks hgap => exact hrest.behind_blanks hgap
  | @word place gap behind word tokens hgap hword hblank _ ih =>
    have hend : ∀ {lead last : List Char}, last ≠ [] → (lead ++ last).getLast? = last.getLast? := by
      intro lead last hne
      rw [List.getLast?_append, List.getLast?_eq_some_getLast hne, Option.some_or]
    have hne : behind ≠ [] := by
      intro hnil
      rw [hnil, List.append_nil, hend hword.toList_ne_nil] at hlast
      have hmem := List.getLast_mem hword.toList_ne_nil
      have hspace := hlast _ (List.getLast?_eq_some_getLast hword.toList_ne_nil)
      rw [hword.not_blank _ hmem] at hspace
      cases hspace
    rw [hend hne] at hlast
    have hplace : place + byteWidth (gap ++ word.toList ++ behind) =
        place + byteWidth gap + byteWidth word.toList + byteWidth behind := by
      rw [byteWidth_append, byteWidth_append]
      omega
    have hhead : ∀ d, (behind ++ rest).head? = some d → isBlank d = true := by
      intro d hd
      obtain ⟨e, tail, rfl⟩ := List.exists_cons_of_ne_nil hne
      exact hblank d hd
    have hall := Layout.word hgap hword hhead (ih hlast (hplace ▸ hrest))
    rw [← List.append_assoc] at hall
    exact hall

/-- The tokens before a cut are those of the first part, the others those of the second. -/
theorem Layout.append (h : Layout place before tokens) (hcut : Cut before rest)
    (hrest : Layout (place + byteWidth before) rest later) : Layout place (before ++ rest) (tokens ++ later) := by
  rcases hcut.apart with rfl | rfl | ⟨front, c, rfl, hc⟩
  · rw [hrest.eq_nil, List.append_nil, List.append_nil]
    exact h
  · rw [h.eq_nil]
    exact hrest
  · refine h.append_of_blank ?_ hrest
    intro d hd
    rw [List.getLast?_concat] at hd
    cases hd
    exact hc

/-- The tokens of a text that is cut, part by part. -/
theorem exists_tokens {text : String} (h : text.toList = before ++ rest) (hcut : Cut before rest) :
    ∃ tokens later, tokenize text = tokens ++ later ∧ Layout 0 before tokens ∧ Layout (byteWidth before) rest later := by
  have hbefore := layout_tokenize (String.ofList before)
  rw [String.toList_ofList] at hbefore
  have hrest : Layout (byteWidth before) rest (scan text.toList (byteWidth before) none rest) := by
    rw [h]
    exact layout_behind before rest
  have hall := hbefore.append hcut (by rwa [Nat.zero_add])
  have htext := layout_tokenize text
  rw [h] at htext
  exact ⟨_, _, htext.unique hall, hbefore, hrest⟩

/-- A text that begins with a word has a token at its first byte. -/
theorem Layout.start_head? (hc : isBlank c = false) (h : Layout place (c :: cs) tokens) :
    tokens.head?.map Token.start = some place := by
  generalize htext : c :: cs = text at h
  cases h with
  | blanks hgap =>
    rw [hgap c (by simp [← htext])] at hc
    cases hc
  | @word _ gap rest word _ hgap =>
    cases gap with
    | nil => rfl
    | cons d gap =>
      rw [List.cons_append, List.cons_append] at htext
      rw [(List.cons.inj htext).1, hgap d List.mem_cons_self] at hc
      cases hc

end Token

end ChatBot
