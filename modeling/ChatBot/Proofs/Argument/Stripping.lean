/-
  ChatBot.Proofs.Argument.Stripping — the text that is left when flags are taken out.

  Flags are taken out one after another, and two of them may share a name or a spelling. What
  is left is nevertheless one filter of the words (`words_extract`), so the order of the flags
  does not count, and a second pass finds no flag (`spells_of_mem_stripped`): it takes nothing
  out and tells every flag absent (`get?_foldl_takeOut_unspelled`).

  Proved: `extract_strips`, for every text and every list of flags.
-/
import ChatBot.Proofs.Argument.Presence
import ChatBot.Proofs.Text.Words

namespace ChatBot

open Text

namespace Flag

variable {flags flags' : List (String × Flag)} {name word text : String} {e : Extracted}

/-! ## The words that stay -/

theorem spells_eq_false : spells flags word = false ↔ ∀ f ∈ effective flags, ¬ f.2.Spells word := by
  rw [spells, List.any_eq_false]
  exact forall₂_congr fun f _ => not_congr spelledBy_iff

/-- The words that spell no flag, with what it is to spell one. -/
theorem plainWords_eq (flags : List (String × Flag)) (text : String) :
    plainWords flags text = (wordsOf text).filter fun w => ∀ f ∈ effective flags, ¬ f.2.Spells w :=
  List.filter_congr fun w _ => by rw [Bool.eq_iff_iff, Bool.not_eq_true', spells_eq_false, decide_eq_true_iff]

theorem text_extract (text : String) (flags : List (String × Flag)) :
    (extract text flags).text = unwords (plainWords flags text) := by rw [Extracted.text, words_extract]

/-- The words of the text that is left. -/
theorem wordsOf_text_extract (text : String) (flags : List (String × Flag)) :
    wordsOf (extract text flags).text = plainWords flags text := by
  rw [text_extract]
  exact wordsOf_unwords fun w hw => mem_wordsOf (List.mem_filter.mp hw).1

theorem spells_of_mem_stripped (h : word ∈ wordsOf (extract text flags).text) : spells flags word = false := by
  rw [wordsOf_text_extract] at h
  simpa using (List.mem_filter.mp h).2

theorem plainWords_stripped (text : String) (flags : List (String × Flag)) :
    plainWords flags (extract text flags).text = plainWords flags text := by
  rw [plainWords, List.filter_eq_self.mpr fun w hw => by rw [spells_of_mem_stripped hw]; rfl, wordsOf_text_extract]

/-! ## The order of the flags -/

theorem effective_perm (h : flags'.Perm flags) : (effective flags').Perm (effective flags) := by
  rw [effective, effective, h.any_eq]
  split
  · exact h
  · exact h.append_right _

theorem plainWords_perm (h : flags'.Perm flags) (text : String) : plainWords flags' text = plainWords flags text :=
  List.filter_congr fun w _ => by rw [spells, spells, (effective_perm h).any_eq]

/-! ## A second pass -/

/-- Where no word spells a flag, the flags are all told absent. -/
theorem get?_foldl_takeOut_unspelled (unspelled : ∀ w ∈ e.words, ∀ f ∈ flags, f.2.spelledBy w = false)
    (absent : ∀ isSet, e.present.get? name = some isSet → isSet = false) :
    ∀ isSet, (flags.foldl Extracted.takeOut e).present.get? name = some isSet → isSet = false := by
  induction flags generalizing e with
  | nil => exact absent
  | cons f flags ih =>
    have hstay : (e.words.filter fun w => !f.2.spelledBy w) = e.words :=
      List.filter_eq_self.mpr fun w hw => by rw [unspelled w hw f List.mem_cons_self]; rfl
    have htaken : e.takeOut f = ⟨e.words, e.present.insert f.1 false⟩ := by
      rw [Extracted.takeOut, hstay, bne_self_eq_false]
    rw [List.foldl_cons, htaken]
    refine ih (fun w hw g hg => unspelled w hw g (List.mem_cons_of_mem f hg)) fun isSet hget => ?_
    rw [Dict.get?_insert] at hget
    split at hget
    · exact (Option.some.inj hget).symm
    · exact absent isSet hget

/-- Of a text without flags every flag is told absent. -/
theorem get?_extract_unspelled (unspelled : ∀ w ∈ wordsOf text, spells flags w = false) (name : String) :
    (extract text flags).present.get? name = if name ∈ (effective flags).map Prod.fst then some false else none := by
  have hspelled : ∀ w ∈ wordsOf text, ∀ f ∈ effective flags, f.2.spelledBy w = false := fun w hw f hf =>
    Bool.eq_false_iff.mpr (List.any_eq_false.mp (unspelled w hw) f hf)
  have habsent : ∀ isSet, (extract text flags).present.get? name = some isSet → isSet = false :=
    get?_foldl_takeOut_unspelled (e := ⟨wordsOf text, .empty⟩) hspelled nofun
  by_cases hname : name ∈ (effective flags).map Prod.fst
  · rw [if_pos hname]
    cases hget : (extract text flags).present.get? name with
    | none => exact absurd (mem_keys_extract.mpr hname) (Dict.get?_eq_none.mp hget)
    | some isSet => rw [habsent isSet hget]
  · rw [if_neg hname]
    exact Dict.get?_eq_none.mpr fun hkey => hname (mem_keys_extract.mp hkey)

/-- What is left of a text are its words that spell no effective flag, in order and joined by
    one space. A second pass leaves it as it is and tells every flag absent, nothing in it
    spells a flag, and the order in which the flags are declared makes no difference to it. -/
theorem extract_strips (text : String) (flags : List (String × Flag)) :
    let stripped := (extract text flags).text
    stripped = unwords ((wordsOf text).filter fun w => ∀ f ∈ effective flags, ¬ f.2.Spells w) ∧
      (extract stripped flags).text = stripped ∧
      (∀ name, (extract stripped flags).present.get? name =
        if name ∈ (effective flags).map Prod.fst then some false else none) ∧
      anyIn stripped flags = false ∧
      ∀ flags', flags'.Perm flags → (extract text flags').text = stripped := by
  intro stripped
  have hunspelled : ∀ w ∈ wordsOf stripped, spells flags w = false := fun _ => spells_of_mem_stripped
  refine ⟨?_, ?_, get?_extract_unspelled hunspelled, ?_, fun flags' perm => ?_⟩
  · rw [← plainWords_eq]
    exact text_extract text flags
  · rw [text_extract, plainWords_stripped]
    exact (text_extract text flags).symm
  · refine List.any_eq_false.mpr fun w hw hany => ?_
    obtain ⟨f, hf, hspelled⟩ := List.any_eq_true.mp hany
    -- a declared flag is an effective one
    have heffective : f ∈ effective flags := by
      unfold effective
      split
      · exact hf
      · exact List.mem_append_left _ hf
    exact List.any_eq_false.mp (hunspelled w hw) f heffective hspelled
  · rw [text_extract, plainWords_perm perm]
    exact (text_extract text flags).symm

/-! ### Flags that share a name and a spelling -/

namespace Overlapping

/-- Two flags of one name, and two that are spelled `-v`. -/
def overlapping : List (String × Flag) := [("loud", ⟨["loud"], ["v"]⟩), ("verbose", ⟨[], ["v"]⟩), ("loud", ⟨["debug"], []⟩)]

end Overlapping

open Overlapping in
theorem extract_strips_overlapping : overlapping.reverse.Perm overlapping ∧
    (extract "-V\tred --x  velvet --Debug" overlapping.reverse).text = "red --x velvet" ∧
    (extract "red --x velvet" overlapping).present.get? "loud" = some false := by
  obtain ⟨hwords, -, habsent, -, hperm⟩ := extract_strips "-V\tred --x  velvet --Debug" overlapping
  have hleft : (extract "-V\tred --x  velvet --Debug" overlapping).text = "red --x velvet" := hwords.trans (by decide)
  have hreverse := List.reverse_perm overlapping
  refine ⟨hreverse, (hperm _ hreverse).trans hleft, ?_⟩
  have htold := habsent "loud"
  rwa [hleft] at htold

end Flag

end ChatBot
