/-
  ChatBot.Proofs.Argument.Presence — what is told of each flag.

  A word spells a flag when it is one of the flag's spellings, up to ASCII case
  (`spelledBy_iff`). Flags are taken out one after another, and a flag is told to be there
  when fewer words are left than before (`get?_extract`): a word counts for the first flag
  that it spells, in order of declaration, and for no flag after that.

  Proved: `parseText_flag`, of every flag and of the one that every command has. It is told
  set exactly when some word of the text spells it and spells no flag before it; only a slot
  that is named `debug` itself can take the place of what is told.
  - `not_parseText_flag`: with a flag `verbose` that is also spelled `--debug`, the text
    `--debug` leaves `debug` unset.
-/
import ChatBot.Proofs.Argument.Sharing
import ChatBot.Proofs.Text.Case

namespace ChatBot

open Text

namespace Flag

variable {flags before after : List (String × Flag)} {flag : Flag} {name word text : String}

/-- Two dashes and a long name, or one dash and a short name that begins with none. -/
def spellings (flag : Flag) : List String :=
  (flag.long.filter fun n => n ≠ "").map ("--" ++ ·) ++
    (flag.short.filter fun n => n ≠ "" ∧ n.toList.head? ≠ some '-').map ("-" ++ ·)

/-- The word is a spelling of the flag, up to ASCII case. -/
def Spells (flag : Flag) (word : String) : Prop := ∃ s ∈ flag.spellings, alike s word = true

instance (flag : Flag) (word : String) : Decidable (flag.Spells word) :=
  List.decidableBEx (fun s => alike s word = true) flag.spellings

/-! ## Spellings -/

theorem toLower_eq_dash (c : Char) : c.toLower = '-' ↔ c = '-' :=
  toLower_rec (P := fun d c => d = '-' ↔ c = '-') (fun _ => Iff.rfl) (by decide) c

theorem alike_dash : alike ("-" ++ name) word = true ↔
    ∃ rest, word.toList = '-' :: rest ∧ alike name (String.ofList rest) = true := by
  have hdash : ("-" ++ name).toList.map Char.toLower = '-' :: name.toList.map Char.toLower := by
    rw [String.toList_append]
    rfl
  rw [alike_iff, hdash]
  cases word.toList with
  | nil => simp
  | cons c cs =>
    rw [List.map_cons, List.cons.injEq, eq_comm (a := '-'), toLower_eq_dash]
    constructor
    · rintro ⟨rfl, h⟩
      exact ⟨cs, rfl, alike_iff.mpr (by rw [String.toList_ofList, h])⟩
    · rintro ⟨rest, hrest, h⟩
      obtain ⟨rfl, rfl⟩ := List.cons.inj hrest
      rw [alike_iff, String.toList_ofList] at h
      exact ⟨rfl, h⟩

/-- What is alike begins with a dash where the other does. -/
theorem head?_dash_of_alike {rest : List Char} (h : alike name (String.ofList rest) = true) :
    name.toList.head? = some '-' ↔ rest.head? = some '-' := by
  rw [alike_iff, String.toList_ofList] at h
  cases hn : name.toList with
  | nil =>
    rw [hn] at h
    rw [List.map_eq_nil_iff.mp h.symm]
  | cons c cs => cases hr : rest with
    | nil => simp [hn, hr] at h
    | cons d ds =>
      rw [hn, hr, List.map_cons, List.map_cons, List.cons.injEq] at h
      rw [List.head?_cons, List.head?_cons, Option.some.injEq, Option.some.injEq, ← toLower_eq_dash, h.1, toLower_eq_dash]

theorem spells_iff : flag.Spells word ↔
    (∃ n ∈ flag.long, n ≠ "" ∧ ∃ rest, word.toList = '-' :: '-' :: rest ∧ alike n (String.ofList rest) = true) ∨
      ∃ n ∈ flag.short, n ≠ "" ∧ ∃ rest, word.toList = '-' :: rest ∧ rest.head? ≠ some '-' ∧
        alike n (String.ofList rest) = true := by
  have hlong (n : String) : alike ("--" ++ n) word = true ↔
      ∃ rest, word.toList = '-' :: '-' :: rest ∧ alike n (String.ofList rest) = true := by
    rw [show "--" ++ n = "-" ++ ("-" ++ n) by rw [← String.append_assoc]; rfl, alike_dash]
    constructor
    · rintro ⟨rest, hword, h⟩
      obtain ⟨rest', hrest, h⟩ := alike_dash.mp h
      rw [String.toList_ofList] at hrest
      exact ⟨rest', hrest ▸ hword, h⟩
    · rintro ⟨rest, hword, h⟩
      exact ⟨'-' :: rest, hword, alike_dash.mpr ⟨rest, String.toList_ofList, h⟩⟩
  unfold Spells spellings
  constructor
  · rintro ⟨s, hs, halike⟩
    rcases List.mem_append.mp hs with hs | hs
    · obtain ⟨n, hn, rfl⟩ := List.mem_map.mp hs
      obtain ⟨hn, hne⟩ := List.mem_filter.mp hn
      exact .inl ⟨n, hn, of_decide_eq_true hne, (hlong n).mp halike⟩
    · obtain ⟨n, hn, rfl⟩ := List.mem_map.mp hs
      obtain ⟨hn, hcond⟩ := List.mem_filter.mp hn
      obtain ⟨hne, hhead⟩ := of_decide_eq_true hcond
      obtain ⟨rest, hword, h⟩ := alike_dash.mp halike
      exact .inr ⟨n, hn, hne, rest, hword, fun hr => hhead ((head?_dash_of_alike h).mpr hr), h⟩
  · rintro (⟨n, hn, hne, hword⟩ | ⟨n, hn, hne, rest, hword, hrest, h⟩)
    · exact ⟨_, List.mem_append_left _ (List.mem_map_of_mem (List.mem_filter.mpr ⟨hn, decide_eq_true hne⟩)),
        (hlong n).mpr hword⟩
    · have hhead : n.toList.head? ≠ some '-' := fun hn => hrest ((head?_dash_of_alike h).mp hn)
      exact ⟨_, List.mem_append_right _ (List.mem_map_of_mem (List.mem_filter.mpr ⟨hn, decide_eq_true ⟨hne, hhead⟩⟩)),
        alike_dash.mpr ⟨rest, hword, h⟩⟩

theorem namedIn_iff {names : List String} {rest : List Char} :
    namedIn names rest = true ↔ ∃ n ∈ names, n ≠ "" ∧ alike n (String.ofList rest) = true := by
  simp [namedIn]

/-- The words that spell a flag are its spellings. -/
theorem spelledBy_iff : flag.spelledBy word = true ↔ flag.Spells word := by
  rw [spells_iff]
  unfold spelledBy
  split
  · rename_i rest hword
    rw [namedIn_iff, hword]
    constructor
    · rintro ⟨n, hn, hne, h⟩
      exact .inl ⟨n, hn, hne, rest, rfl, h⟩
    · rintro (⟨n, hn, hne, rest', hrest, h⟩ | ⟨n, -, -, rest', hrest, hdash, -⟩)
      · cases hrest
        exact ⟨n, hn, hne, h⟩
      · cases hrest
        exact absurd rfl hdash
  · rename_i rest hdash hword
    rw [namedIn_iff, hword]
    constructor
    · rintro ⟨n, hn, hne, h⟩
      refine .inr ⟨n, hn, hne, rest, rfl, fun hhead => ?_, h⟩
      obtain ⟨rest', rfl⟩ := List.head?_eq_some_iff.mp hhead
      exact hdash rest' rfl
    · rintro (⟨n, -, -, rest', hrest, -⟩ | ⟨n, hn, hne, rest', hrest, -, h⟩)
      · cases hrest
        exact absurd rfl (hdash rest')
      · cases hrest
        exact ⟨n, hn, hne, h⟩
  · rename_i hlong hshort
    refine iff_of_false Bool.false_ne_true ?_
    rintro (⟨n, -, -, rest, hword, -⟩ | ⟨n, -, -, rest, hword, -⟩)
    · exact hlong rest hword
    · exact hshort rest hword

/-! ## Presence -/

theorem get?_foldl_takeOut (h : name ∉ flags.map Prod.fst) (e : Extracted) :
    (flags.foldl Extracted.takeOut e).present.get? name = e.present.get? name := by
  induction flags generalizing e with
  | nil => rfl
  | cons f flags ih =>
    rw [List.map_cons, List.mem_cons, not_or] at h
    rw [List.foldl_cons, ih h.2, Extracted.takeOut, Dict.get?_insert, if_neg h.1]

/-- Fewer words are left exactly when some word was taken out. -/
theorem length_filter_not_bne {α : Type} (l : List α) (p : α → Bool) :
    ((l.filter fun a => !p a).length != l.length) = l.any p := by
  rw [Bool.eq_iff_iff, bne_iff_ne, ne_eq, List.length_filter_eq_length_iff]
  simp

/-- A flag is told set when a word spells it that spells no flag taken out before. -/
theorem get?_extract (text : String) (order : effective flags = before ++ (name, flag) :: after)
    (h : name ∉ after.map Prod.fst) : (extract text flags).present.get? name =
      some ((wordsOf text).any fun w => !(before.any fun f => f.2.spelledBy w) && flag.spelledBy w) := by
  rw [extract, order, List.foldl_append, List.foldl_cons, get?_foldl_takeOut h, Extracted.takeOut, Dict.get?_insert,
    if_pos rfl, length_filter_not_bne, words_foldl_takeOut, List.any_filter]

theorem nodup_effective (h : (flags.map Prod.fst).Nodup) : ((effective flags).map Prod.fst).Nodup := by
  unfold effective
  split
  · exact h
  · rename_i hdebug
    rw [List.map_append]
    refine List.nodup_append.mpr ⟨h, List.pairwise_singleton _ _, ?_⟩
    rintro name hname other hother rfl
    cases List.mem_singleton.mp hother
    obtain ⟨f, hf, hf'⟩ := List.mem_map.mp hname
    exact hdebug (List.any_eq_true.mpr ⟨f, hf, beq_iff_eq.mpr hf'⟩)

end Flag

namespace Schema

variable {schema : Schema} {now : Instant} {name text : String} {words : List String}

/-- Of every flag it is told that it is set exactly when some word of the text spells it and
    spells none of the flags before it, in order of declaration. The one exception is a slot
    with the name of the flag that every command has: what it reads stands in the flag's place. -/
theorem parseText_flag (schema : Schema) (now : Instant) (text : String) (distinct : schema.slotNames.Nodup)
    (before after : List (String × Flag)) (flag : String × Flag)
    (order : Flag.effective schema.flags = before ++ flag :: after) :
    ∃ isSet, (isSet = true ↔ ∃ w ∈ wordsOf text, flag.2.Spells w ∧ ∀ f ∈ before, ¬ f.2.Spells w) ∧
      ((schema.parseText now text).get? flag.1 = some (.flag isSet) ∨
        flag.1 = "debug" ∧ "debug" ∈ schema.mentions.map Prod.fst ++ schema.inputs.map Prod.fst ∧
          ∃ value, schema.slotValue? now (Flag.plainWords schema.flags text) "debug" = some value ∧
            (schema.parseText now text).get? "debug" = some value) := by
  obtain ⟨hflags, -, hapart⟩ := List.nodup_append.mp distinct
  have hafter : flag.1 ∉ after.map Prod.fst := by
    have heffective := Flag.nodup_effective hflags
    rw [order, List.map_append, List.map_cons] at heffective
    exact (List.nodup_cons.mp (List.nodup_append.mp heffective).2.1).1
  have htold := Flag.get?_extract text order hafter
  refine ⟨(wordsOf text).any fun w => !(before.any fun f => f.2.spelledBy w) && flag.2.spelledBy w, ?_, ?_⟩
  · simp only [List.any_eq_true, Bool.and_eq_true, Bool.not_eq_true', List.any_eq_false, Flag.spelledBy_iff]
    exact exists_congr fun w => and_congr_right fun _ => and_comm
  · rw [get?_parseText, flagValue?_eq, htold]
    by_cases hslot : flag.1 ∈ schema.mentions.map Prod.fst ++ schema.inputs.map Prod.fst
    · have hdebug : flag.1 = "debug" := by
        have hmem : flag.1 ∈ (Flag.effective schema.flags).map Prod.fst := by
          rw [order]
          simp
        exact Flag.eq_debug_of_mem_effective hmem fun h => hapart _ h _ hslot rfl
      cases hvalue : schema.slotValue? now (Flag.plainWords schema.flags text) flag.1 with
      | none => exact .inl rfl
      | some value =>
        refine .inr ⟨hdebug, hdebug ▸ hslot, value, hdebug ▸ hvalue, ?_⟩
        rw [get?_parseText, ← hdebug, hvalue]
        rfl
    · rw [slotValue?_eq_none hslot]
      exact .inl rfl

end Schema

/-! ### A flag with the spelling of another -/

namespace Verbose

/-- A flag that is also spelled as the flag that every command has. -/
def verbose : Schema := ⟨[], [], [("verbose", ⟨["verbose", "debug"], ["v"]⟩)]⟩

end Verbose

open Verbose in
/-- `--debug` counts for `verbose`, and `debug` stays unset. -/
theorem Schema.parseText_flag_verbose : verbose.slotNames.Nodup ∧
    Flag.effective verbose.flags = [("verbose", ⟨["verbose", "debug"], ["v"]⟩)] ++ ("debug", Flag.debug) :: [] ∧
    (verbose.parseText 0 "--Debug x").get? "debug" = some (.flag false) := by
  refine ⟨by decide, rfl, ?_⟩
  obtain ⟨isSet, hset, htold⟩ := parseText_flag verbose 0 "--Debug x" (by decide) _ _ _ rfl
  rcases htold with htold | ⟨-, hslot, -⟩
  · cases isSet with
    | false => exact htold
    | true => exact absurd (hset.mp rfl) (by decide)
  · exact absurd hslot (by decide)

open Verbose in
/-- It is not enough that a word of the text spells the flag. -/
theorem Schema.not_parseText_flag : ¬ ∀ (schema : Schema) (now : Instant) (text : String), schema.slotNames.Nodup →
    ∀ flag ∈ Flag.effective schema.flags, (schema.parseText now text).get? flag.1 =
      some (.flag (decide (∃ w ∈ wordsOf text, flag.2.Spells w))) := by
  intro h
  have htold := h verbose 0 "--debug" (by decide) ("debug", Flag.debug) (by decide)
  have hunset : (verbose.parseText 0 "--debug").get? "debug" = some (.flag false) := rfl
  have hspelled : decide (∃ w ∈ wordsOf "--debug", Flag.debug.Spells w) = true := by decide
  rw [hunset, hspelled] at htold
  cases htold

end ChatBot
