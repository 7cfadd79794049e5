/-
  ChatBot.Proofs.Invocation — no word is lost between the choice of a command and the
  reading of its arguments.

  A message is cut behind the words that select a command. They are kept as words, and
  what is behind them twice: as words and as a text with its own spacing. Both are the
  same arguments (`Splits`), whatever blanks stand between the words and however many
  words were to select; and from its printed form an invocation is read back as it was
  (`split_loses_nothing`).
-/
import ChatBot.Proofs.Registry.Names
import ChatBot.Proofs.Text.Cut

namespace ChatBot

open Text

namespace Invocation

variable {text : String} {before rest : List Char}

/-! ## What a cut makes of a text -/

/-- The invocation that selects with the words of the first part. -/
def ofParts (before rest : List Char) (variations : List String) : Invocation where
  selectors := (Text.words before).map String.ofList
  variations := variations
  words := (Text.words rest).map String.ofList
  argsText := String.ofList (trimEnd rest)

theorem ofText_cut (h : text.toList = before ++ rest) (hcut : Cut before rest) (variations : List String) :
    ofText text (Text.words before).length variations = ofParts before rest variations := by
  obtain ⟨first, later, htokens, hfirst, hlater⟩ := Token.exists_tokens h hcut
  have hlength : (Text.words before).length = first.length := by
    rw [← List.length_map String.ofList, ← hfirst.texts, List.length_map]
  rw [ofText, ofParts, htokens, hlength]
  simp only [List.take_left, List.drop_left, hfirst.texts, hlater.texts,
    List.getElem?_append_right (Nat.le_refl _), Nat.sub_self]
  congr 1
  cases rest with
  | nil => rw [hlater.eq_nil]; rfl
  | cons c rest =>
    -- the first token behind the cut starts where the text is cut
    obtain ⟨token, htoken, hstart⟩ := Option.map_eq_some_iff.mp (hlater.start_head? (hcut.starts c rfl))
    rw [← List.head?_eq_getElem?, htoken]
    show String.ofList (trimEnd (fromByte token.start text.toList)) = _
    rw [hstart, h, fromByte_append]

theorem ofText_min (text : String) (consumed : Nat) (variations : List String) :
    ofText text (min consumed (tokenize text).length) variations = ofText text consumed variations := by
  by_cases h : consumed ≤ (tokenize text).length
  · rw [Nat.min_eq_left h]
  · have hle : (tokenize text).length ≤ consumed := by omega
    rw [Nat.min_eq_right hle, ofText, ofText]
    simp [List.take_of_length_le hle, List.drop_of_length_le hle, List.getElem?_eq_none hle]

/-- Every text is cut behind the words that select, all of them if there are fewer. -/
theorem exists_parts (text : String) (consumed : Nat) (variations : List String) :
    ∃ before rest, text.toList = before ++ rest ∧ Cut before rest ∧
      Text.words before = (Text.words text.toList).take consumed ∧
      ofText text consumed variations = ofParts before rest variations := by
  obtain ⟨before, rest, hsplit, hcut, hwords⟩ := exists_cut text.toList consumed
  refine ⟨before, rest, hsplit, hcut, hwords, ?_⟩
  rw [← ofText_min, length_tokenize, ← List.length_take, ← hwords, ofText_cut hsplit hcut]

/-! ## The two forms of the arguments -/

/-- The invocation has every word of the text once and in order, the first `consumed` of
    them as selectors, and its arguments as one piece of the text. -/
structure Splits (i : Invocation) (text : String) (consumed : Nat) : Prop where
  words : i.selectors ++ i.words = (tokenize text).map Token.text
  selectors : i.selectors.length = min consumed (tokenize text).length
  piece : ∃ before after, text = before ++ i.argsText ++ after ∧ wordsOf before = i.selectors ∧ isBlankText after = true
  starts : ∀ c, i.argsText.toList.head? = some c → isBlank c = false
  ends : ∀ c, i.argsText.toList.getLast? = some c → isBlank c = false
  wordsOf_argsText : wordsOf i.argsText = i.words
  wordsFrom : ∀ n s, i.wordsFrom? n = some s ↔ n < i.words.length ∧ s = " ".intercalate (i.words.drop n)

theorem wordsFrom?_eq_some {i : Invocation} {n : Nat} {s : String} :
    i.wordsFrom? n = some s ↔ n < i.words.length ∧ s = " ".intercalate (i.words.drop n) := by
  rw [wordsFrom?]
  split
  · rename_i h
    simp [h, unwords, eq_comm]
  · rename_i h
    simp [h]

theorem splits_ofText (text : String) (consumed : Nat) (variations : List String) :
    (ofText text consumed variations).Splits text consumed := by
  obtain ⟨before, rest, hsplit, hcut, hwords, hparts⟩ := exists_parts text consumed variations
  obtain ⟨gap, htrim, hgap⟩ := exists_trimEnd rest
  have htext : text.toList = before ++ (trimEnd rest ++ gap) := by rw [← htrim, hsplit]
  have htokens : (tokenize text).map Token.text = (Text.words text.toList).map String.ofList := texts_tokenize text
  rw [hparts]
  refine ⟨?_, ?_, ⟨String.ofList before, String.ofList gap, ?_, ?_, ?_⟩, ?_, ?_, ?_, fun _ _ => wordsFrom?_eq_some⟩
  · rw [htokens, hsplit, hcut.words, List.map_append]
    rfl
  · rw [ofParts, List.length_map, hwords, List.length_take, length_tokenize]
  · rw [← String.toList_inj, htext]
    simp [ofParts]
  · rw [wordsOf, String.toList_ofList]
    rfl
  · simpa [isBlankText] using hgap
  · simpa [ofParts] using hcut.trimEnd.starts
  · simpa [ofParts] using fun c => isBlank_getLast?_trimEnd
  · rw [wordsOf, ofParts, String.toList_ofList, words_trimEnd]

/-! ## The printed form -/

/-- The printed form is cut where the text was. -/
theorem exists_cut_toText (hcut : Cut before rest) (variations : List String) :
    ∃ printed, (ofParts before rest variations).toText.toList = printed ++ trimEnd rest ∧
      Cut printed (trimEnd rest) ∧ Text.words printed = Text.words before := by
  have hselectors : ∀ s ∈ (Text.words before).map String.ofList, s.toList ≠ [] ∧ ∀ c ∈ s.toList, isBlank c = false := by
    intro s hs
    obtain ⟨w, hw, rfl⟩ := List.mem_map.mp hs
    rw [String.toList_ofList]
    exact mem_words hw
  have hprinted : Text.words (unwords ((Text.words before).map String.ofList)).toList = Text.words before := by
    rw [words_unwords hselectors, List.map_map]
    simp [Function.comp_def]
  by_cases hargs : trimEnd rest = []
  · refine ⟨(unwords ((Text.words before).map String.ofList)).toList, ?_, by rw [hargs]; exact cut_end _, hprinted⟩
    simp [toText, ofParts, hargs]
  have htoText : (ofParts before rest variations).toText =
      unwords ((Text.words before).map String.ofList ++ [String.ofList (trimEnd rest)]) := by
    simp [toText, ofParts, hargs]
  by_cases hnone : Text.words before = []
  · refine ⟨[], ?_, ⟨hcut.trimEnd.starts, .inr (.inl rfl)⟩, by rw [words_nil, hnone]⟩
    rw [htoText, hnone, List.map_nil, List.nil_append, unwords, String.intercalate_singleton, String.toList_ofList,
      List.nil_append]
  · refine ⟨(unwords ((Text.words before).map String.ofList)).toList ++ [' '], ?_,
      ⟨hcut.trimEnd.starts, .inr (.inr ⟨_, ' ', rfl, by decide⟩)⟩, ?_⟩
    · rw [htoText, unwords_concat (by simpa using hnone)]
      simp
    · rw [words_append_blanks _ (by simp; decide), hprinted]

/-- From its printed form an invocation is read back as it was. -/
theorem ofText_toText (text : String) (consumed : Nat) (variations : List String) :
    let i := ofText text consumed variations
    ofText i.toText i.selectors.length variations = i := by
  obtain ⟨before, rest, -, hcut, -, hparts⟩ := exists_parts text consumed variations
  obtain ⟨printed, hprinted, hcut', hwords⟩ := exists_cut_toText hcut variations
  have htrimmed : trimEnd (trimEnd rest) = trimEnd rest := trimEnd_eq_self fun c => isBlank_getLast?_trimEnd
  have hselectors : (ofParts before rest variations).selectors.length = (Text.words printed).length := by
    rw [ofParts, List.length_map, hwords]
  dsimp only
  rw [hparts, hselectors, ofText_cut hprinted hcut', ofParts, ofParts, hwords, words_trimEnd, htrimmed]

end Invocation

/-- Between the choice of a command and the reading of its arguments no word of a text is
    lost, doubled or moved. -/
theorem Invocation.split_loses_nothing :
    (∀ (text : String) (consumed : Nat) (variations : List String),
      let i := ofText text consumed variations
      i.Splits text consumed ∧ i.variations = variations ∧ ofText i.toText i.selectors.length variations = i) ∧
    ∀ (r : Registry) (text : String) (found : Registry.Resolution), r.resolve text = .ok found →
      found.consumed = found.invocation.selectors := by
  refine ⟨fun text consumed variations => ⟨splits_ofText .., rfl, ofText_toText ..⟩, ?_⟩
  intro r text found h
  obtain ⟨first, node, variation, -, -, rfl⟩ := Registry.resolve_eq_ok.mp h
  change (wordsOf text).take _ = ((tokenize text).take _).map Token.text
  rw [List.map_take, texts_tokenize]

/-! ### Uneven blanks -/

namespace Uneven

def text : String := "\tratings  IMPORT\u3000my  file \n"

def registry : Registry := ⟨[.parent Registry.Ratings.ratings], .empty, []⟩

def found : Registry.Resolution := .below text (.parent Registry.Ratings.ratings) none

theorem resolved : registry.resolve text = .ok found :=
  Registry.resolve_eq_ok.mpr ⟨"ratings", .parent Registry.Ratings.ratings, none, rfl, rfl, rfl⟩

end Uneven

open Uneven in
/-- Two words select, and the blanks between the others stay. -/
theorem Invocation.split_loses_nothing_import : registry.resolve text = .ok found ∧
    found.consumed = ["ratings", "IMPORT"] ∧ found.invocation.selectors = ["ratings", "IMPORT"] ∧
      found.invocation.argsText = "my  file" := by
  have hconsumed : found.consumed = ["ratings", "IMPORT"] := rfl
  have hselectors : found.consumed = found.invocation.selectors := split_loses_nothing.2 registry text found resolved
  exact ⟨resolved, hconsumed, hselectors ▸ hconsumed, rfl⟩

end ChatBot
