/-
  ChatBot.Proofs.Text.Tokens — the tokens of a text, by the bytes that they span.

  The scan goes through a text once, and of the word that it is in it knows the byte where
  the word began and nothing else; each token is then sliced out of the text. `Layout` says
  what comes of it: words, each behind blanks and in front of a blank or the end, every one
  at its own bytes. The scan makes such a layout (`layout_scan`, where the word that was
  begun is the invariant), and a text has only one (`Layout.unique`).

  Proved: `tokenize_spans`, for every text. The tokens span disjoint bytes in order, they
  begin and end where characters do, each is the slice between its ends and a word, and
  what no token spans is blank; no other list of tokens is like that. So the texts of the
  tokens are the words between the blanks (`texts_tokenize`).
-/
import ChatBot.Proofs.Text.Bytes
import ChatBot.Proofs.Text.Words

namespace ChatBot

open Text

namespace Token

/-- The token of a word that begins at byte `place`. -/
def ofWord (place : Nat) (word : String) : Token := ⟨word, place, place + byteWidth word.toList⟩

/-- How tokens lie in a text whose first byte is `place`. -/
inductive Layout : (place : Nat) → List Char → List Token → Prop
  | blanks {place : Nat} {gap : List Char} : (∀ c ∈ gap, isBlank c = true) → Layout place gap []
  | word {place : Nat} {gap rest : List Char} {word : String} {tokens : List Token} :
    (∀ c ∈ gap, isBlank c = true) → IsWord word → (∀ c, rest.head? = some c → isBlank c = true) →
    Layout (place + byteWidth gap + byteWidth word.toList) rest tokens →
    Layout place (gap ++ word.toList ++ rest) (ofWord (place + byteWidth gap) word :: tokens)

variable {place : Nat} {text front word rest cs gap : List Char} {tokens others : List Token}

/-! ## What the scan makes -/

/-- A slice between two ends of parts is the part between them. -/
theorem cut_eq (h : text = front ++ word ++ rest) :
    cut text (byteWidth front) (byteWidth (front ++ word)) = ofWord (byteWidth front) (String.ofList word) := by
  have hslice : slice? text (byteWidth front) (byteWidth (front ++ word)) = some word :=
    slice?_eq_some.mpr ⟨front, rest, h, rfl, (byteWidth_append front word).symm⟩
  rw [cut, hslice, ofWord, byteWidth_append, String.toList_ofList]
  rfl

/-- Blanks in front move the tokens and are none. -/
theorem Layout.behind_blanks (hgap : ∀ c ∈ gap, isBlank c = true) (h : Layout (place + byteWidth gap) cs tokens) :
    Layout place (gap ++ cs) tokens := by
  cases h with
  | blanks hcs =>
    apply Layout.blanks
    intro c hc
    rcases List.mem_append.mp hc with hc | hc
    · exact hgap c hc
    · exact hcs c hc
  | @word _ gap' rest word tokens hgap' hword hrest hlater =>
    have hboth : ∀ c ∈ gap ++ gap', isBlank c = true := by
      intro c hc
      rcases List.mem_append.mp hc with hc | hc
      · exact hgap c hc
      · exact hgap' c hc
    have hwidth : place + byteWidth gap + byteWidth gap' = place + byteWidth (gap ++ gap') := by
      rw [byteWidth_append, Nat.add_assoc]
    rw [hwidth] at hlater ⊢
    have hall := Layout.word hboth hword hrest hlater
    rw [List.append_assoc, List.append_assoc] at hall
    rwa [List.append_assoc]

/-- A word in front of a blank, or of the end, is a token of its own. -/
theorem Layout.cons (hword : IsWord (String.ofList word)) (hrest : ∀ c, rest.head? = some c → isBlank c = true)
    (h : Layout (place + byteWidth word) rest tokens) :
    Layout place (word ++ rest) (ofWord place (String.ofList word) :: tokens) := by
  have hlater : Layout (place + byteWidth [] + byteWidth (String.ofList word).toList) rest tokens := by
    rw [String.toList_ofList]
    exact h
  have hall := @Layout.word place [] rest _ tokens (by simp) hword hrest hlater
  rw [List.nil_append, String.toList_ofList] at hall
  exact hall

/-- The tokens of what is left of a text, behind the word that was begun. -/
theorem layout_scan {pending : List Char} (h : text = front ++ pending ++ cs)
    (hpending : ∀ c ∈ pending, isBlank c = false) :
    Layout (byteWidth front) (pending ++ cs)
      (scan text (byteWidth (front ++ pending)) (if pending.isEmpty then none else some (byteWidth front)) cs) := by
  induction cs generalizing front pending with
  | nil =>
    by_cases hne : pending = []
    · rw [hne]
      exact .blanks (by simp)
    · have htext : byteWidth text = byteWidth (front ++ pending) := by rw [h, List.append_nil]
      have hlast : scan text (byteWidth (front ++ pending)) (some (byteWidth front)) [] =
          [ofWord (byteWidth front) (String.ofList pending)] := by
        rw [scan, Option.map_some, htext, cut_eq h]
        rfl
      rw [if_neg (by simpa using hne), hlast]
      exact .cons (isWord_ofList hne hpending) (by simp) (.blanks (by simp))
  | cons c cs ih =>
    have hplace : byteWidth (front ++ pending) + c.utf8Size = byteWidth (front ++ pending ++ [c]) := by
      rw [byteWidth_append (front ++ pending)]
      rfl
    unfold scan
    rw [hplace]
    by_cases hc : isBlank c = true
    · rw [if_pos hc]
      have hnext : Layout (byteWidth (front ++ pending ++ [c])) cs
          (scan text (byteWidth (front ++ pending ++ [c])) none cs) := by
        have htext : text = front ++ pending ++ [c] ++ [] ++ cs := by simp [h]
        have hleft := ih htext (by simp)
        rwa [List.append_nil] at hleft
      have hblank : Layout (byteWidth front + byteWidth pending) (c :: cs)
          (scan text (byteWidth (front ++ pending ++ [c])) none cs) := by
        have hgap : ∀ d ∈ [c], isBlank d = true := by simpa using hc
        refine Layout.behind_blanks hgap ?_
        rwa [← byteWidth_append, ← byteWidth_append]
      by_cases hne : pending = []
      · rw [hne] at hblank ⊢
        exact hblank
      · rw [if_neg (by simpa using hne), Option.map_some, cut_eq h]
        refine Layout.cons (isWord_ofList hne hpending) ?_ hblank
        intro d hd
        obtain rfl : c = d := by simpa using hd
        exact hc
    · -- the word goes on, or begins here
      rw [if_neg hc]
      have hbegun : (if pending.isEmpty then none else some (byteWidth front)).getD (byteWidth (front ++ pending)) =
          byteWidth front := by
        by_cases hne : pending = []
        · rw [hne, List.append_nil]
          rfl
        · rw [if_neg (by simpa using hne)]
          rfl
      rw [hbegun]
      have htext : text = front ++ (pending ++ [c]) ++ cs := by simp [h]
      have hlonger : ∀ d ∈ pending ++ [c], isBlank d = false := by
        intro d hd
        rcases List.mem_append.mp hd with hd | hd
        · exact hpending d hd
        · rw [List.mem_singleton.mp hd]
          simpa using hc
      have hnext := ih htext hlonger
      rwa [if_neg (by simp), ← List.append_assoc, List.append_assoc pending] at hnext

/-- The tokens of the second part of a text. -/
theorem layout_behind (front cs : List Char) :
    Layout (byteWidth front) cs (scan (front ++ cs) (byteWidth front) none cs) := by
  have htext : front ++ cs = front ++ [] ++ cs := by simp
  have h := layout_scan htext (by simp)
  rwa [List.append_nil] at h

theorem layout_tokenize (s : String) : Layout 0 s.toList (tokenize s) := layout_behind [] s.toList

/-! ## A text has one layout -/

theorem Layout.unique (h : Layout place cs tokens) (h' : Layout place cs others) : tokens = others := by
  induction h generalizing others with
  | @blanks place gap hgap =>
    cases h' with
    | blanks => rfl
    | @word _ gap' rest word _ _ hword =>
      obtain ⟨c, tail, hc, hblank⟩ := hword.exists_head
      have hmem : c ∈ gap' ++ word.toList ++ rest := by simp [hc]
      rw [hgap c hmem] at hblank
      cases hblank
  | @word place gap rest word tokens hgap hword hrest _ ih =>
    generalize hcs : gap ++ word.toList ++ rest = cs at h'
    cases h' with
    | blanks hblanks =>
      obtain ⟨c, tail, hc, hblank⟩ := hword.exists_head
      have hmem : c ∈ cs := by simp [← hcs, hc]
      rw [hblanks c hmem] at hblank
      cases hblank
    | word hgap' hword' hrest' hlater =>
      obtain ⟨rfl, rfl, rfl⟩ := append_word_inj hcs hgap hword hrest hgap' hword' hrest'
      rw [ih hlater]

/-! ## What the tokens of a layout are -/

theorem Layout.texts (h : Layout place cs tokens) : tokens.map Token.text = (words cs).map String.ofList := by
  induction h with
  | blanks hgap => rw [words_blank hgap]; rfl
  | @word place gap rest word tokens hgap hword hrest _ ih =>
    have hnext := words_append hword.toList_ne_nil hword.not_blank hrest
    rw [List.append_assoc, words_blank_append hgap, hnext, List.map_cons, List.map_cons, ih, String.ofList_toList]
    rfl

theorem Layout.place_le (h : Layout place cs tokens) : ∀ t ∈ tokens, place ≤ t.start := by
  induction h with
  | blanks => intro t ht; cases ht
  | word _ _ _ _ ih =>
    intro t ht
    rcases List.mem_cons.mp ht with rfl | ht
    · exact Nat.le_add_right _ _
    · have := ih t ht
      omega

theorem Layout.place_lt (h : Layout place cs tokens) (hblank : ∀ c, cs.head? = some c → isBlank c = true) :
    ∀ t ∈ tokens, place < t.start := by
  cases h with
  | blanks => intro t ht; cases ht
  | @word _ gap rest word tokens _ hword _ hlater =>
    have hgap : 0 < byteWidth gap := by
      rcases Nat.eq_zero_or_pos (byteWidth gap) with hzero | hpos
      · -- the word would begin with the blank
        rw [byteWidth_eq_zero hzero] at hblank
        obtain ⟨c, tail, hc, hnot⟩ := hword.exists_head
        have := hblank c (by rw [hc]; rfl)
        rw [hnot] at this
        cases this
      · exact hpos
    intro t ht
    rcases List.mem_cons.mp ht with rfl | ht
    · show place < place + byteWidth gap
      omega
    · have := hlater.place_le t ht
      omega

/-- Tokens with nothing between them would be one. -/
theorem Layout.ordered (h : Layout place cs tokens) : tokens.Pairwise fun t u => t.stop < u.start := by
  induction h with
  | blanks => exact .nil
  | word _ _ hrest hlater ih => exact .cons (hlater.place_lt hrest) ih

theorem Layout.isWord (h : Layout place cs tokens) : ∀ t ∈ tokens, IsWord t.text := by
  induction h with
  | blanks => intro t ht; cases ht
  | word _ hword _ _ ih =>
    intro t ht
    rcases List.mem_cons.mp ht with rfl | ht
    · exact hword
    · exact ih t ht

theorem Layout.slices (h : Layout place cs tokens) (hplace : byteWidth front = place) (htext : text = front ++ cs) :
    ∀ t ∈ tokens, slice? text t.start t.stop = some t.text.toList := by
  induction h generalizing front with
  | blanks => intro t ht; cases ht
  | @word place gap rest word tokens _ _ _ _ ih =>
    have hstart : byteWidth (front ++ gap) = place + byteWidth gap := by rw [byteWidth_append, hplace]
    intro t ht
    rcases List.mem_cons.mp ht with rfl | ht
    · exact slice?_eq_some.mpr ⟨front ++ gap, rest, by simp [htext, ofWord], hstart, rfl⟩
    · have hrest : text = front ++ gap ++ word.toList ++ rest := by simp [htext]
      refine ih ?_ hrest t ht
      rw [byteWidth_append, hstart]

/-- A character that is in front of every token or behind it is blank. -/
theorem Layout.outside (h : Layout place cs tokens) {before after : List Char} {c : Char}
    (hcs : cs = before ++ c :: after)
    (hout : ∀ t ∈ tokens, place + byteWidth before < t.start ∨ t.stop ≤ place + byteWidth before) :
    isBlank c = true := by
  induction h generalizing before with
  | blanks hgap => exact hgap c (by simp [hcs])
  | @word place gap rest word tokens hgap hword _ _ ih =>
    obtain ⟨hfirst, hlater⟩ := List.forall_mem_cons.mp hout
    rcases hfirst with hfront | hbehind
    · -- the character is one of the blanks in front of the word
      have hle : byteWidth before < byteWidth gap := Nat.lt_of_add_lt_add_left hfront
      rw [List.append_assoc] at hcs
      obtain ⟨mid, hmid, hnext⟩ := exists_append_of_byteWidth_le hcs.symm (Nat.le_of_lt hle)
      cases mid with
      | nil =>
        rw [hmid, List.append_nil] at hle
        omega
      | cons d mid =>
        rw [List.cons_append] at hnext
        rw [(List.cons.inj hnext).1]
        exact hgap d (by simp [hmid])
    · have hle : byteWidth (gap ++ word.toList) ≤ byteWidth before := by
        have hstop : place + byteWidth gap + byteWidth word.toList ≤ place + byteWidth before := hbehind
        rw [byteWidth_append]
        omega
      obtain ⟨between, hbefore, hrest⟩ := exists_append_of_byteWidth_le hcs hle
      refine ih hrest fun t ht => ?_
      have := hlater t ht
      rw [hbefore, byteWidth_append, byteWidth_append] at this
      omega

/-! ## Tokens by the bytes of a text -/

/-- Slices that are words, with nothing but blanks outside them, lie in the text so. -/
theorem layout_of_slices (htext : text = front ++ cs) (hordered : tokens.Pairwise fun t u => t.stop < u.start)
    (hplace : ∀ t ∈ tokens, byteWidth front ≤ t.start)
    (hslices : ∀ t ∈ tokens, slice? text t.start t.stop = some t.text.toList)
    (hwords : ∀ t ∈ tokens, IsWord t.text)
    (hout : ∀ before c after, text = before ++ c :: after → byteWidth front ≤ byteWidth before →
      (∀ t ∈ tokens, byteWidth before < t.start ∨ t.stop ≤ byteWidth before) → isBlank c = true) :
    Layout (byteWidth front) cs tokens := by
  induction tokens generalizing front cs with
  | nil =>
    apply Layout.blanks
    intro c hc
    obtain ⟨lead, after, rfl⟩ := List.append_of_mem hc
    refine hout (front ++ lead) c after (by simp [htext]) ?_ (by simp)
    rw [byteWidth_append]
    omega
  | cons t tokens ih =>
    obtain ⟨hlater, hordered⟩ := List.pairwise_cons.mp hordered
    obtain ⟨before, after, hsplit, hstart, hstop⟩ := slice?_eq_some.mp (hslices t List.mem_cons_self)
    have hfront : byteWidth front ≤ byteWidth before := by
      rw [hstart]
      exact hplace t List.mem_cons_self
    rw [List.append_assoc] at hsplit
    obtain ⟨gap, rfl, hcs⟩ := exists_append_of_byteWidth_le (htext.symm.trans hsplit) hfront
    have hend : byteWidth (front ++ gap ++ t.text.toList) = t.stop := by rw [byteWidth_append, hstart, hstop]
    have hgap : ∀ c ∈ gap, isBlank c = true := by
      intro c hc
      obtain ⟨lead, tail, rfl⟩ := List.append_of_mem hc
      have hinside : byteWidth (front ++ lead) < t.start := by
        have := c.utf8Size_pos
        rw [← hstart, byteWidth_append, byteWidth_append, byteWidth_append, byteWidth]
        omega
      refine hout (front ++ lead) c (tail ++ t.text.toList ++ after) (by simp [hsplit]) ?_ ?_
      · rw [byteWidth_append]
        omega
      · intro u hu
        left
        rcases List.mem_cons.mp hu with rfl | hu
        · exact hinside
        · have := hlater u hu
          omega
    have hrest : ∀ c, after.head? = some c → isBlank c = true := by
      intro c hc
      obtain ⟨tail, rfl⟩ := List.head?_eq_some_iff.mp hc
      refine hout (front ++ gap ++ t.text.toList) c tail (by simp [hsplit]) ?_ ?_
      · rw [hend]
        omega
      · intro u hu
        rw [hend]
        rcases List.mem_cons.mp hu with rfl | hu
        · right
          exact Nat.le_refl _
        · left
          exact hlater u hu
    have hnext : Layout (byteWidth (front ++ gap ++ t.text.toList)) after tokens := by
      refine ih (by simp [hsplit]) hordered ?_ (fun u hu => hslices u (List.mem_cons_of_mem t hu))
        (fun u hu => hwords u (List.mem_cons_of_mem t hu)) ?_
      · intro u hu
        rw [hend]
        exact Nat.le_of_lt (hlater u hu)
      · intro lead c tail hlead hle hfree
        refine hout lead c tail hlead (by omega) ?_
        intro u hu
        rcases List.mem_cons.mp hu with rfl | hu
        · right
          omega
        · exact hfree u hu
    rw [byteWidth_append, byteWidth_append] at hnext
    have hall := Layout.word hgap (hwords t List.mem_cons_self) hrest hnext
    have htoken : ofWord (byteWidth front + byteWidth gap) t.text = t := by
      rw [ofWord, ← byteWidth_append, hstart, hstop]
    rw [htoken, List.append_assoc, ← hcs] at hall
    exact hall

end Token

/-- What the tokens of a text are, by its bytes in UTF-8. -/
structure Tokenization (text : String) (tokens : List Token) : Prop where
  ordered : tokens.Pairwise fun t u => t.stop < u.start
  bounds : ∀ t ∈ tokens, t.start < t.stop ∧ t.stop ≤ text.utf8ByteSize
  boundaries : ∀ t ∈ tokens, String.Pos.Raw.IsValid text ⟨t.start⟩ ∧ String.Pos.Raw.IsValid text ⟨t.stop⟩
  /-- The text can be sliced between the ends of a token, and there it has the token's text. -/
  slices : ∀ t ∈ tokens, slice? text.toList t.start t.stop = some t.text.toList
  bytes : ∀ t ∈ tokens, text.toByteArray.extract t.start t.stop = t.text.toByteArray
  isWord : ∀ t ∈ tokens, IsWord t.text
  /-- A character that no token spans. -/
  outside : ∀ before c after, text = before ++ String.singleton c ++ after →
    (∀ t ∈ tokens, before.utf8ByteSize < t.start ∨ t.stop ≤ before.utf8ByteSize) → isBlank c = true

theorem Token.Layout.tokenization {text : String} {tokens : List Token} (h : Layout 0 text.toList tokens) :
    Tokenization text tokens := by
  have hslices : ∀ t ∈ tokens, slice? text.toList t.start t.stop = some t.text.toList :=
    h.slices (show byteWidth [] = 0 from rfl) rfl
  constructor
  case ordered => exact h.ordered
  case bounds =>
    intro t ht
    obtain ⟨before, after, htext, hstart, hstop⟩ := slice?_eq_some.mp (hslices t ht)
    have hwidth := congrArg byteWidth htext
    rw [byteWidth_toList, byteWidth_append, byteWidth_append] at hwidth
    have hne : byteWidth t.text.toList ≠ 0 := fun hzero => (h.isWord t ht).toList_ne_nil (byteWidth_eq_zero hzero)
    omega
  case boundaries =>
    intro t ht
    obtain ⟨before, after, htext, hstart, hstop⟩ := slice?_eq_some.mp (hslices t ht)
    constructor
    · rw [isValid_iff_splitAtByte?, splitAtByte?_eq_some.mpr ⟨List.append_assoc .. ▸ htext, hstart⟩]
      simp
    · have hend : byteWidth (before ++ t.text.toList) = t.stop := by rw [byteWidth_append, hstart, hstop]
      rw [isValid_iff_splitAtByte?, splitAtByte?_eq_some.mpr ⟨htext, hend⟩]
      simp
  case slices => exact hslices
  case bytes =>
    intro t ht
    rw [toByteArray_slice (hslices t ht), String.ofList_toList]
  case isWord => exact h.isWord
  case outside =>
    intro before c after htext hfree
    have hcs : text.toList = before.toList ++ c :: after.toList := by simp [htext]
    refine h.outside hcs ?_
    rw [Nat.zero_add, byteWidth_toList]
    exact hfree

theorem Tokenization.layout {text : String} {tokens : List Token} (h : Tokenization text tokens) :
    Token.Layout 0 text.toList tokens := by
  have hall : text.toList = [] ++ text.toList := rfl
  refine Token.layout_of_slices hall h.ordered (fun _ _ => Nat.zero_le _) h.slices h.isWord ?_
  intro before c after htext _ hfree
  refine h.outside (String.ofList before) c (String.ofList after) ?_ ?_
  · rw [← String.toList_inj, htext]
    simp
  · rw [utf8ByteSize_ofList]
    exact hfree

/-- The tokens of a text are its words. -/
theorem texts_tokenize (text : String) : (tokenize text).map Token.text = wordsOf text :=
  (Token.layout_tokenize text).texts

theorem length_tokenize (text : String) : (tokenize text).length = (words text.toList).length := by
  rw [← List.length_map Token.text, texts_tokenize, wordsOf, List.length_map]

/-- The tokens of a text are its longest runs of characters that are not blank, each with the
    bytes that it spans, and their texts are the pieces between the blanks. -/
theorem tokenize_spans (text : String) :
    (∀ tokens, tokens = tokenize text ↔ Tokenization text tokens) ∧
      (tokenize text).map Token.text =
        ((text.toList.splitOnP isBlank).filter (!·.isEmpty)).map String.ofList := by
  refine ⟨fun tokens => ?_, texts_tokenize text⟩
  constructor
  · intro h
    rw [h]
    exact (Token.layout_tokenize text).tokenization
  · intro h
    exact h.layout.unique (Token.layout_tokenize text)

example : tokenize "\u3000a 😀b\u2003" = [⟨"a", 3, 4⟩, ⟨"😀b", 5, 10⟩] := by decide

end ChatBot
