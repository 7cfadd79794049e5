/-
  ChatBot.Proofs.Argument.Flags — flags leave no trace in what is read by place.

  Flags are taken out one after another, and what stays are the words that spell none of
  them (`words_extract`). Mentions and inputs are read from these words alone
  (`get?_parseText`), so two texts with the same words apart from flags give every slot the
  same value (`parseText_congr`). One slot can tell such texts apart: a slot named as the
  flag that every command has, for where it reads nothing the flag is seen in its place.
-/
import ChatBot.Argument.Schema
import ChatBot.Proofs.Dict

namespace ChatBot

open Text

namespace Flag

variable {flags : List (String × Flag)} {name text : String}

/-- The word spells one of the effective flags. -/
def spells (flags : List (String × Flag)) (word : String) : Bool :=
  (effective flags).any fun f => f.2.spelledBy word

/-- The words of a text that spell no flag. -/
def plainWords (flags : List (String × Flag)) (text : String) : List String :=
  (wordsOf text).filter fun w => !spells flags w

/-! ## What is taken out -/

theorem words_foldl_takeOut (flags : List (String × Flag)) (e : Extracted) :
    (flags.foldl Extracted.takeOut e).words = e.words.filter fun w => !flags.any fun f => f.2.spelledBy w := by
  induction flags generalizing e with
  | nil => exact (List.filter_eq_self.mpr fun _ _ => rfl).symm
  | cons f flags ih =>
    rw [List.foldl_cons, ih, Extracted.takeOut, List.filter_filter]
    simp only [List.any_cons, Bool.not_or, Bool.and_comm]

/-- What stays are the words that spell no flag. -/
theorem words_extract (text : String) (flags : List (String × Flag)) :
    (extract text flags).words = plainWords flags text :=
  words_foldl_takeOut (effective flags) _

theorem mem_keys_foldl_takeOut (flags : List (String × Flag)) (e : Extracted) :
    name ∈ (flags.foldl Extracted.takeOut e).present.keys ↔ name ∈ e.present.keys ∨ name ∈ flags.map Prod.fst := by
  induction flags generalizing e with
  | nil => simp
  | cons f flags ih =>
    rw [List.foldl_cons, ih, Extracted.takeOut, Dict.mem_keys_insert, List.map_cons, List.mem_cons,
      or_assoc, or_left_comm]

/-- Presence is told of every effective flag, and of nothing else. -/
theorem mem_keys_extract : name ∈ (extract text flags).present.keys ↔ name ∈ (effective flags).map Prod.fst := by
  rw [extract, mem_keys_foldl_takeOut]
  exact or_iff_right List.not_mem_nil

theorem nodup_foldl_takeOut {e : Extracted} (h : e.present.keys.Nodup) (flags : List (String × Flag)) :
    (flags.foldl Extracted.takeOut e).present.keys.Nodup := by
  induction flags generalizing e with
  | nil => exact h
  | cons f flags ih => exact ih (Dict.nodup_insert h _ _)

theorem eq_debug_of_mem_effective (h : name ∈ (effective flags).map Prod.fst) (hn : name ∉ flags.map Prod.fst) :
    name = "debug" := by
  unfold effective at h
  split at h
  · exact absurd h hn
  · rw [List.map_append, List.mem_append] at h
    exact List.mem_singleton.mp (h.resolve_left hn)

end Flag

namespace Schema

variable {schema : Schema} {now : Instant} {name text text' : String}

/-- The names of all slots. -/
def slotNames (schema : Schema) : List String :=
  schema.flags.map Prod.fst ++ (schema.mentions.map Prod.fst ++ schema.inputs.map Prod.fst)

/-- What the mentions and inputs read from words. -/
def slotValues (schema : Schema) (now : Instant) (words : List String) : List (String × ArgValue) :=
  let found := findMentions schema.mentions words
  (found.targets.map fun t => (t.1, ArgValue.mention t.2)) ++
    schema.inputs.filterMap fun input => (input.2.read now (inputWords words found.used)).map fun v => (input.1, v)

/-- The value that a mention or an input of this name reads from words, if it reads any. -/
def slotValue? (schema : Schema) (now : Instant) (words : List String) (name : String) : Option ArgValue :=
  (Dict.ofList (schema.slotValues now words)).get? name

/-- The presence of the flag of a name, if there is one. -/
def flagValue? (schema : Schema) (text name : String) : Option ArgValue :=
  (Dict.ofList ((Flag.extract text schema.flags).present.entries.map fun f => (f.1, ArgValue.flag f.2))).get? name

/-- A value is read from the words that spell no flag; a flag is seen where nothing is read. -/
theorem get?_parseText (schema : Schema) (now : Instant) (text name : String) :
    (schema.parseText now text).get? name =
      (schema.slotValue? now (Flag.plainWords schema.flags text) name).or (schema.flagValue? text name) := by
  rw [slotValue?, flagValue?, ← Dict.get?_ofList_append, ← Flag.words_extract, slotValues, ← List.append_assoc]
  rfl

/-- The presence that was told of the flag. -/
theorem flagValue?_eq : schema.flagValue? text name = ((Flag.extract text schema.flags).present.get? name).map .flag := by
  have hnodup : (Flag.extract text schema.flags).present.keys.Nodup :=
    Flag.nodup_foldl_takeOut (e := ⟨wordsOf text, .empty⟩) List.nodup_nil _
  rw [flagValue?, Dict.get?_ofList_of_nodup (by rw [List.map_map]; exact hnodup), Dict.lookup_map]
  rfl

theorem flagValue?_eq_none (h : name ∉ (Flag.effective schema.flags).map Prod.fst) :
    schema.flagValue? text name = none := by
  rw [flagValue?_eq, Dict.get?_eq_none.mpr fun hkey => h (Flag.mem_keys_extract.mp hkey)]
  rfl

theorem flagValue?_eq_flag (text : String) (h : name ∈ (Flag.effective schema.flags).map Prod.fst) :
    ∃ isSet, schema.flagValue? text name = some (.flag isSet) := by
  rw [flagValue?_eq]
  cases hpresent : (Flag.extract text schema.flags).present.get? name with
  | none => exact absurd (Flag.mem_keys_extract.mpr h) (Dict.get?_eq_none.mp hpresent)
  | some isSet => exact ⟨isSet, rfl⟩

/-- Two texts that are the same but for flags and the blanks between words give every
    mention and every input the same value, or none. The one exception is a slot with the
    name of the flag that every command has: where it reads nothing, the flag is seen. -/
theorem parseText_congr (schema : Schema) (now : Instant) (text text' name : String)
    (distinct : schema.slotNames.Nodup)
    (same : Flag.plainWords schema.flags text = Flag.plainWords schema.flags text')
    (slot : name ∈ schema.mentions.map Prod.fst ++ schema.inputs.map Prod.fst) :
    (schema.parseText now text).get? name = (schema.parseText now text').get? name ∨
      name = "debug" ∧ schema.slotValue? now (Flag.plainWords schema.flags text) name = none ∧
        ∃ isSet isSet', (schema.parseText now text).get? name = some (.flag isSet) ∧
          (schema.parseText now text').get? name = some (.flag isSet') := by
  have hdeclared : name ∉ schema.flags.map Prod.fst :=
    fun h => (List.nodup_append.mp distinct).2.2 name h name slot rfl
  rw [get?_parseText, get?_parseText, ← same]
  by_cases heffective : name ∈ (Flag.effective schema.flags).map Prod.fst
  · cases hv : schema.slotValue? now (Flag.plainWords schema.flags text) name with
    | some v => exact .inl rfl
    | none =>
      obtain ⟨isSet, h⟩ := flagValue?_eq_flag text heffective
      obtain ⟨isSet', h'⟩ := flagValue?_eq_flag text' heffective
      exact .inr ⟨Flag.eq_debug_of_mem_effective heffective hdeclared, rfl, isSet, isSet', h, h'⟩
  · rw [flagValue?_eq_none heffective, flagValue?_eq_none heffective]
    exact .inl rfl

end Schema

/-! ### Flags in between, and a slot named as a flag -/

namespace Artist

/-- A user and the rest of the words, and a flag that is spelled `-nr`. -/
def artist : Schema where
  inputs := [("artist", .plain (.onward 0))]
  mentions := [("user", ⟨.onward 0, true, none⟩)]
  flags := [("noRedirect", ⟨["no-redirect"], ["nr"]⟩)]

/-- Reads its first word as `debug`. -/
def debugging : Schema := { artist with inputs := [("debug", .plain (.single 0))] }

end Artist

open Artist in
/-- Three flags and other blanks make no difference to the artist. -/
theorem Schema.parseText_congr_artist : artist.slotNames.Nodup ∧
    Flag.plainWords artist.flags "-NR red  <@5> --debug velvet --no-redirect" =
      Flag.plainWords artist.flags "red <@5>\tvelvet" ∧
    (artist.parseText 0 "-NR red  <@5> --debug velvet --no-redirect").get? "artist" =
      (artist.parseText 0 "red <@5>\tvelvet").get? "artist" := by
  have hsame : Flag.plainWords artist.flags "-NR red  <@5> --debug velvet --no-redirect" =
      Flag.plainWords artist.flags "red <@5>\tvelvet" := by decide
  refine ⟨by decide, hsame, ?_⟩
  rcases parseText_congr artist 0 _ _ "artist" (by decide) hsame (by decide) with h | ⟨h, -⟩
  · exact h
  · exact absurd h (by decide)

open Artist in
/-- A slot that is named `debug` tells texts apart by a flag. -/
theorem Schema.not_parseText_congr : ¬ ∀ (schema : Schema) (now : Instant) (text text' name : String),
    schema.slotNames.Nodup → Flag.plainWords schema.flags text = Flag.plainWords schema.flags text' →
      name ∈ schema.mentions.map Prod.fst ++ schema.inputs.map Prod.fst →
        (schema.parseText now text).get? name = (schema.parseText now text').get? name := by
  intro h
  have hsame := h debugging 0 "" "--debug" "debug" (by decide) (by decide) (by decide)
  have hunset : (debugging.parseText 0 "").get? "debug" = some (.flag false) := rfl
  have hset : (debugging.parseText 0 "--debug").get? "debug" = some (.flag true) := rfl
  rw [hunset, hset] at hsame
  cases hsame

end ChatBot
