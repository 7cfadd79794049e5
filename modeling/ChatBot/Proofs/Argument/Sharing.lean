/-
  ChatBot.Proofs.Argument.Sharing — how mention slots share the words of a text.

  The slots take turns in order of declaration. In its turn a slot takes the first word
  that it accepts, among the places that it covers and that no slot before it used up, and
  goes without when there is none (`Turn`). There is one way to share the words so
  (`shares_iff`).

  Proved: `parseText_shares`, for every schema and text. The arguments are told by that
  sharing: every mention is what its slot takes, no place is used up twice, and the inputs
  are read from the words at all other places, in order. A slot that does not use its word
  up leaves it where it is.
-/
import Mathlib.Data.List.Induction
import Mathlib.Data.List.Nodup
import ChatBot.Proofs.Argument.Flags

namespace ChatBot.Schema

/-- What a mention slot takes: a place, whom its word refers to, and whether the word is used up. -/
structure Taking where
  place : Nat
  target : MentionTarget
  consumes : Bool
  deriving DecidableEq

/-- The places that are used up, one for each taking that uses its word up. -/
def usedUp (takes : List (Option Taking)) : List Nat :=
  takes.filterMap fun take => take.bind fun t => if t.consumes then some t.place else none

/-- The word at a place is used up or not accepted. -/
def Refused (spec : MentionSpec) (words : List String) (used : List Nat) (place : Nat) : Prop :=
  place ∉ used → ∀ word, words[place]? = some word → spec.read word = none

/-- What a slot takes in its turn, where some places are used up. -/
inductive Turn (spec : MentionSpec) (words : List String) (used : List Nat) : Option Taking → Prop
  | takes {place : Nat} {word : String} {target : MentionTarget} {consumes : Bool} :
    place ∈ spec.index.covered words.length → place ∉ used → words[place]? = some word →
    spec.read word = some (target, consumes) →
    (∀ q ∈ spec.index.covered words.length, q < place → Refused spec words used q) →
    Turn spec words used (some ⟨place, target, consumes⟩)
  | passes : (∀ q ∈ spec.index.covered words.length, Refused spec words used q) → Turn spec words used none

/-- Every slot has its turn after those declared before it. -/
structure Shares (slots : List (String × MentionSpec)) (words : List String) (takes : List (Option Taking)) : Prop where
  length : takes.length = slots.length
  turn : ∀ (i : Nat) (slot : String × MentionSpec) (take : Option Taking), slots[i]? = some slot →
    takes[i]? = some take → Turn slot.2 words (usedUp (takes.take i)) take

/-- What the search of a slot's positions finds. -/
def taken (spec : MentionSpec) (words : List String) (used : List Nat) : Option Taking :=
  (firstMention spec words used).map fun r => ⟨r.1, r.2.1, r.2.2⟩

/-- Every slot's turn, one after another. -/
def sharing (slots : List (String × MentionSpec)) (words : List String) : List (Option Taking) :=
  slots.foldl (fun takes slot => takes ++ [taken slot.2 words (usedUp takes)]) []

/-- What the slots tell: the name of each that takes something, and its target. -/
def told (slots : List (String × MentionSpec)) (takes : List (Option Taking)) : List (String × MentionTarget) :=
  (slots.zip takes).filterMap fun s => s.2.map fun t => (s.1.1, t.target)

/-- What the inputs read from words. -/
def inputValues (schema : Schema) (now : Instant) (words : List String) : List (String × ArgValue) :=
  schema.inputs.filterMap fun input => (input.2.read now words).map fun v => (input.1, v)

/-- `rest` are the words at the places that are not gone, in order. -/
def Remain (words : List String) (gone : List Nat) (rest : List String) : Prop :=
  ∃ places : List Nat, places.Pairwise (· < ·) ∧ (∀ p, p ∈ places ↔ p < words.length ∧ p ∉ gone) ∧
    rest.map some = places.map (words[·]?)

variable {spec : MentionSpec} {slot : String × MentionSpec} {slots : List (String × MentionSpec)}
  {words : List String} {used : List Nat} {take take' : Option Taking} {takes takes' : List (Option Taking)}

/-! ## One turn -/

theorem pairwise_covered (index : Index) (count : Nat) : (index.covered count).Pairwise (· < ·) :=
  List.pairwise_lt_range' 1

theorem attempt_eq_none {p : Nat} : (if used.contains p then none
    else words[p]?.bind fun w => (spec.read w).map fun r => (p, r.1, r.2)) = none ↔ Refused spec words used p := by
  simp [Refused, Option.bind_eq_none_iff]

theorem attempt_eq_some {p : Nat} {found : Nat × MentionTarget × Bool} : (if used.contains p then none
    else words[p]?.bind fun w => (spec.read w).map fun r => (p, r.1, r.2)) = some found ↔
      p = found.1 ∧ p ∉ used ∧ ∃ w, words[p]? = some w ∧ spec.read w = some found.2 := by
  simp only [List.contains_eq_mem, decide_eq_true_eq]
  split
  · rename_i hused
    simp [hused]
  · rename_i hused
    simp only [Option.bind_eq_some_iff, Option.map_eq_some_iff]
    constructor
    · rintro ⟨w, hw, r, hr, rfl⟩
      exact ⟨rfl, hused, w, hw, hr⟩
    · rintro ⟨rfl, -, w, hw, hr⟩
      exact ⟨w, hw, _, hr, rfl⟩

/-- A slot takes in its turn what the search of its positions finds. -/
theorem turn_taken (spec : MentionSpec) (words : List String) (used : List Nat) :
    Turn spec words used (taken spec words used) := by
  unfold taken
  cases hfound : firstMention spec words used with
  | none => exact .passes fun q hq => attempt_eq_none.mp (List.findSome?_eq_none_iff.mp hfound q hq)
  | some found =>
    obtain ⟨before, place, after, hcovered, hplace, hbefore⟩ := List.findSome?_eq_some_iff.mp hfound
    obtain ⟨rfl, hfree, word, hword, hread⟩ := attempt_eq_some.mp hplace
    refine .takes (by simp [hcovered]) hfree hword hread fun q hq hlt => attempt_eq_none.mp (hbefore q ?_)
    have hordered := pairwise_covered spec.index words.length
    rw [hcovered] at hq hordered
    rcases List.mem_append.mp hq with hq | hq
    · exact hq
    · rcases List.mem_cons.mp hq with rfl | hq
      · omega
      · have := List.rel_of_pairwise_cons (List.pairwise_append.mp hordered).2.1 hq
        omega

/-- The places that are used up decide what a slot takes. -/
theorem Turn.unique (h : Turn spec words used take) (h' : Turn spec words used take') : take = take' := by
  cases h with
  | passes hnone => cases h' with
    | passes => rfl
    | takes hq hfree hword hread => simp [hnone _ hq hfree _ hword] at hread
  | @takes p _ _ _ hp hfree hword hread hfirst => cases h' with
    | passes hnone => simp [hnone p hp hfree _ hword] at hread
    | @takes q _ _ _ hq hfree' hword' hread' hfirst' =>
      rcases Nat.lt_trichotomy p q with hlt | rfl | hlt
      · simp [hfirst' p hp hlt hfree _ hword] at hread
      · cases Option.some.inj (hword.symm.trans hword')
        cases Option.some.inj (hread.symm.trans hread')
        rfl
      · simp [hfirst q hq hlt hfree' _ hword'] at hread'

/-- In which order places were used up does not count. -/
theorem firstMention_reverse (spec : MentionSpec) (words : List String) (used : List Nat) :
    firstMention spec words used.reverse = firstMention spec words used := by
  simp only [firstMention, List.contains_reverse]

/-- What a turn uses up was there and not used up before. -/
theorem Turn.usedUp_eq (h : Turn spec words used take) :
    usedUp [take] = [] ∨ ∃ p, usedUp [take] = [p] ∧ p ∉ used ∧ p < words.length := by
  cases h with
  | passes => exact .inl rfl
  | @takes p word target consumes hp hfree hword hread hfirst => cases consumes with
    | false => exact .inl rfl
    | true => exact .inr ⟨p, rfl, hfree, (List.getElem?_eq_some_iff.mp hword).1⟩

/-! ## All turns -/

/-- The last slot has its turn when all others had theirs. -/
theorem shares_concat : Shares (slots ++ [slot]) words (takes ++ [take]) ↔
    Shares slots words takes ∧ Turn slot.2 words (usedUp takes) take := by
  constructor
  · intro h
    have hlength : takes.length = slots.length := by simpa using h.length
    refine ⟨⟨hlength, fun i s t hs ht => ?_⟩, ?_⟩
    · have hi : i < takes.length := (List.getElem?_eq_some_iff.mp ht).1
      have := h.turn i s t (by rw [List.getElem?_append_left (hlength ▸ hi), hs])
        (by rw [List.getElem?_append_left hi, ht])
      rwa [List.take_append_of_le_length (Nat.le_of_lt hi)] at this
    · have := h.turn slots.length slot take (by simp) (by rw [← hlength]; simp)
      rwa [← hlength, List.take_left] at this
  · rintro ⟨h, hturn⟩
    refine ⟨by simp [h.length], fun i s t hs ht => ?_⟩
    rcases Nat.lt_trichotomy i takes.length with hi | rfl | hi
    · rw [List.getElem?_append_left (h.length ▸ hi)] at hs
      rw [List.getElem?_append_left hi] at ht
      rw [List.take_append_of_le_length (Nat.le_of_lt hi)]
      exact h.turn i s t hs ht
    · rw [h.length, List.getElem?_concat_length] at hs
      rw [List.getElem?_concat_length] at ht
      cases hs
      cases ht
      rwa [List.take_left]
    · rw [List.getElem?_eq_none (by simp; omega)] at ht
      cases ht

theorem Shares.exists_concat (h : Shares (slots ++ [slot]) words takes) :
    ∃ init last, takes = init ++ [last] ∧ Shares slots words init ∧ Turn slot.2 words (usedUp init) last := by
  have hne : takes ≠ [] := by
    rintro rfl
    simpa using h.length
  refine ⟨takes.dropLast, takes.getLast hne, (List.dropLast_concat_getLast hne).symm, shares_concat.mp ?_⟩
  rwa [List.dropLast_concat_getLast hne]

theorem length_usedUp (takes : List (Option Taking)) :
    (usedUp takes).length = takes.countP fun take => take.any (·.consumes) := by
  induction takes with
  | nil => rfl
  | cons take takes ih =>
    rw [List.countP_cons, ← ih, usedUp, List.filterMap_cons]
    cases take with
    | none => rfl
    | some t => cases h : t.consumes <;> simp [h, usedUp]

theorem usedUp_concat (takes : List (Option Taking)) (take : Option Taking) :
    usedUp (takes ++ [take]) = usedUp takes ++ usedUp [take] := List.filterMap_append

theorem told_concat (h : takes.length = slots.length) :
    told (slots ++ [slot]) (takes ++ [take]) = told slots takes ++ (take.map fun t => (slot.1, t.target)).toList := by
  rw [told, List.zip_append h.symm, List.filterMap_append]
  cases take <;> rfl

theorem sharing_concat (slots : List (String × MentionSpec)) (slot : String × MentionSpec) (words : List String) :
    sharing (slots ++ [slot]) words = sharing slots words ++ [taken slot.2 words (usedUp (sharing slots words))] := by
  rw [sharing, List.foldl_append]
  rfl

/-- There is one way to share words. -/
theorem shares_iff : Shares slots words takes ↔ takes = sharing slots words := by
  induction slots using List.reverseRecOn generalizing takes with
  | nil => exact ⟨fun h => List.length_eq_zero_iff.mp h.length, fun h => h ▸ ⟨rfl, fun _ _ _ h => by cases h⟩⟩
  | append_singleton slots slot ih =>
    have hturn := turn_taken slot.2 words (usedUp (sharing slots words))
    rw [sharing_concat]
    constructor
    · intro h
      obtain ⟨init, last, rfl, hinit, hlast⟩ := h.exists_concat
      cases ih.mp hinit
      rw [hlast.unique hturn]
    · rintro rfl
      exact shares_concat.mpr ⟨ih.mpr rfl, hturn⟩

/-- The search for mentions shares the words. -/
theorem findMentions_eq (slots : List (String × MentionSpec)) (words : List String) :
    findMentions slots words = ⟨(usedUp (sharing slots words)).reverse, told slots (sharing slots words)⟩ := by
  induction slots using List.reverseRecOn with
  | nil => rfl
  | append_singleton slots slot ih =>
    have hlength : (sharing slots words).length = slots.length := (shares_iff.mpr rfl).length
    have hnext : findMentions (slots ++ [slot]) words = (findMentions slots words).take words slot := by
      rw [findMentions, List.foldl_append]
      rfl
    rw [hnext, ih, Found.take, sharing_concat, told_concat hlength, usedUp_concat, List.reverse_append,
      firstMention_reverse, taken]
    cases firstMention slot.2 words (usedUp (sharing slots words)) with
    | none => simp [usedUp]
    | some found =>
      obtain ⟨p, target, consumes⟩ := found
      cases consumes <;> simp [usedUp]

/-- No place is used up twice. -/
theorem Shares.nodup_usedUp (h : Shares slots words takes) :
    (usedUp takes).Nodup ∧ ∀ p ∈ usedUp takes, p < words.length := by
  induction slots using List.reverseRecOn generalizing takes with
  | nil =>
    rw [List.length_eq_zero_iff.mp h.length]
    exact ⟨List.nodup_nil, fun p hp => by cases hp⟩
  | append_singleton slots slot ih =>
    obtain ⟨init, last, rfl, hinit, hlast⟩ := h.exists_concat
    obtain ⟨hnodup, hlt⟩ := ih hinit
    rw [usedUp_concat]
    rcases hlast.usedUp_eq with hnone | ⟨p, hone, hfree, hp⟩
    · rw [hnone, List.append_nil]
      exact ⟨hnodup, hlt⟩
    · rw [hone]
      refine ⟨List.nodup_append.mpr ⟨hnodup, List.pairwise_singleton _ p, ?_⟩, ?_⟩
      · rintro q hq q' hq' rfl
        exact hfree (List.mem_singleton.mp hq' ▸ hq)
      · intro q hq
        rcases List.mem_append.mp hq with hq | hq
        · exact hlt q hq
        · exact List.mem_singleton.mp hq ▸ hp

/-! ## What is left -/

theorem remain_inputWords (words : List String) (used : List Nat) : Remain words used (inputWords words used) := by
  have hplaces : ((words.zipIdx.filter fun w => !used.contains w.2).map Prod.snd).Sublist (List.range' 0 words.length) := by
    rw [← List.zipIdx_map_snd 0 words]
    exact List.filter_sublist.map Prod.snd
  refine ⟨_, (List.pairwise_lt_range' 1).sublist hplaces, fun p => ?_, ?_⟩
  · constructor
    · intro hp
      obtain ⟨⟨w, q⟩, hw, rfl⟩ := List.mem_map.mp hp
      obtain ⟨hw, hfree⟩ := List.mem_filter.mp hw
      exact ⟨(List.getElem?_eq_some_iff.mp (List.mem_zipIdx_iff_getElem?.mp hw)).1, by simpa using hfree⟩
    · rintro ⟨hp, hfree⟩
      refine List.mem_map.mpr ⟨(words[p], p), List.mem_filter.mpr ⟨?_, by simpa using hfree⟩, rfl⟩
      exact List.mem_zipIdx_iff_getElem?.mpr (List.getElem?_eq_getElem hp)
  · rw [inputWords, List.map_map, List.map_map]
    refine List.map_congr_left fun w hw => ?_
    exact (List.mem_zipIdx_iff_getElem?.mp (List.mem_filter.mp hw).1).symm

/-- Every word is used up or left. -/
theorem Remain.length {rest : List String} (h : Remain words used rest) (hnodup : used.Nodup)
    (hlt : ∀ p ∈ used, p < words.length) : rest.length + used.length = words.length := by
  obtain ⟨places, hordered, hmem, hrest⟩ := h
  have hall : (places ++ used).Perm (List.range words.length) := by
    refine (List.perm_ext_iff_of_nodup ?_ List.nodup_range).mpr fun p => ?_
    · refine List.nodup_append.mpr ⟨hordered.imp Nat.ne_of_lt, hnodup, ?_⟩
      rintro p hp q hq rfl
      exact ((hmem p).mp hp).2 hq
    · rw [List.mem_append, hmem, List.mem_range]
      by_cases hp : p ∈ used
      · simp [hp, hlt p hp]
      · simp [hp]
  have hlength := hall.length_eq
  rw [List.length_append, List.length_range] at hlength
  rw [← hlength, ← rest.length_map some, hrest, List.length_map]

/-! ## The arguments -/

theorem told_cons (slot : String × MentionSpec) (slots : List (String × MentionSpec)) (take : Option Taking)
    (takes : List (Option Taking)) :
    told (slot :: slots) (take :: takes) = (take.map fun t => (slot.1, t.target)).toList ++ told slots takes := by
  cases take <;> rfl

theorem sublist_told (slots : List (String × MentionSpec)) (takes : List (Option Taking)) :
    ((told slots takes).map Prod.fst).Sublist (slots.map Prod.fst) := by
  induction slots generalizing takes with
  | nil => exact List.Sublist.refl []
  | cons slot slots ih => cases takes with
    | nil => exact List.nil_sublist _
    | cons take takes =>
      rw [told_cons]
      cases take with
      | none => exact (ih takes).cons slot.1
      | some t => exact (ih takes).cons_cons slot.1

/-- Among slots of different names, each tells under its name what it takes. -/
theorem lookup_told (distinct : (slots.map Prod.fst).Nodup) {i : Nat} (hslot : slots[i]? = some slot)
    (takes : List (Option Taking)) : (told slots takes).lookup slot.1 = takes[i]?.join.map (·.target) := by
  induction slots generalizing i takes with
  | nil => cases hslot
  | cons first slots ih =>
    rw [List.map_cons, List.nodup_cons] at distinct
    cases takes with
    | nil => rfl
    | cons take takes =>
      rw [told_cons, List.lookup_append]
      cases i with
      | zero =>
        cases hslot
        cases take with
        | some t => simp
        | none =>
          have habsent : slot.1 ∉ ((⟨told slots takes⟩ : Dict String MentionTarget)).keys :=
            fun h => distinct.1 ((sublist_told slots takes).subset h)
          exact Dict.get?_eq_none.mpr habsent
      | succ i =>
        have hother : slot.1 ≠ first.1 := by
          intro h
          exact distinct.1 (h ▸ List.mem_map_of_mem (List.mem_of_getElem? hslot))
        rw [ih distinct.2 hslot takes]
        cases take with
        | none => rfl
        | some t =>
          rw [Option.map_some, Option.toList_some, Dict.lookup_cons_if, if_neg hother]
          rfl

theorem inputWords_reverse (words : List String) (used : List Nat) : inputWords words used.reverse = inputWords words used := by
  simp only [inputWords, List.contains_reverse]

theorem slotValue?_eq (schema : Schema) (now : Instant) (words : List String) (name : String) :
    let takes := sharing schema.mentions words
    schema.slotValue? now words name =
      ((Dict.ofList (schema.inputValues now (inputWords words (usedUp takes)))).get? name).or
        ((Dict.ofList ((told schema.mentions takes).map fun t => (t.1, ArgValue.mention t.2))).get? name) := by
  intro takes
  rw [slotValue?, slotValues, findMentions_eq, inputWords_reverse, Dict.get?_ofList_append]
  rfl

theorem sublist_inputValues (schema : Schema) (now : Instant) (words : List String) :
    ((schema.inputValues now words).map Prod.fst).Sublist (schema.inputs.map Prod.fst) := by
  rw [inputValues]
  induction schema.inputs with
  | nil => exact List.Sublist.refl []
  | cons input inputs ih =>
    rw [List.filterMap_cons]
    cases input.2.read now words with
    | none => exact ih.cons input.1
    | some v => exact ih.cons_cons input.1

/-- Nothing is read for a name that no input has. -/
theorem get?_inputValues_eq_none {schema : Schema} {now : Instant} {name : String} (h : name ∉ schema.inputs.map Prod.fst) :
    (Dict.ofList (schema.inputValues now words)).get? name = none :=
  Dict.get?_ofList_eq_none fun hmem => h ((sublist_inputValues schema now words).subset hmem)

/-- Nothing is told for a name that no slot has. -/
theorem get?_told_eq_none {name : String} (h : name ∉ slots.map Prod.fst) (takes : List (Option Taking)) :
    (Dict.ofList ((told slots takes).map fun t => (t.1, ArgValue.mention t.2))).get? name = none := by
  refine Dict.get?_ofList_eq_none fun hmem => h ((sublist_told slots takes).subset ?_)
  rw [List.map_map] at hmem
  exact hmem

/-- Nothing is read for a name that no mention and no input has. -/
theorem slotValue?_eq_none {schema : Schema} {now : Instant} {name : String}
    (h : name ∉ schema.mentions.map Prod.fst ++ schema.inputs.map Prod.fst) : schema.slotValue? now words name = none := by
  rw [List.mem_append, not_or] at h
  rw [slotValue?_eq, get?_inputValues_eq_none h.2, get?_told_eq_none h.1]
  rfl

/-- Where all names are different, a mention slot has what it takes. -/
theorem slotValue?_mention {schema : Schema} (distinct : schema.slotNames.Nodup) (now : Instant) {i : Nat}
    (hslot : schema.mentions[i]? = some slot) : schema.slotValue? now words slot.1 =
      ((sharing schema.mentions words)[i]?.join.map (·.target)).map .mention := by
  obtain ⟨-, hslots, -⟩ := List.nodup_append.mp distinct
  obtain ⟨hmentions, -, hapart⟩ := List.nodup_append.mp hslots
  have hname : slot.1 ∈ schema.mentions.map Prod.fst := List.mem_map_of_mem (List.mem_of_getElem? hslot)
  rw [slotValue?_eq, get?_inputValues_eq_none fun h => hapart _ hname _ h rfl, Option.none_or, Dict.get?_ofList_of_nodup,
    Dict.lookup_map, lookup_told hmentions hslot]
  rw [List.map_map]
  exact (sublist_told _ _).nodup hmentions

/-- An input has what it reads, where no other of its name reads anything else. -/
theorem get?_inputValues {schema : Schema} (now : Instant) (words : List String) {input : String × InputSpec}
    (h : input ∈ schema.inputs) (same : ∀ other ∈ schema.inputs, other.1 = input.1 → other.2 = input.2) :
    (Dict.ofList (schema.inputValues now words)).get? input.1 = input.2.read now words := by
  have hread : ∀ e ∈ schema.inputValues now words, e.1 = input.1 → input.2.read now words = some e.2 := by
    intro e he hname
    obtain ⟨other, hother, hvalue⟩ := List.mem_filterMap.mp he
    obtain ⟨v, hv, rfl⟩ := Option.map_eq_some_iff.mp hvalue
    rw [← same other hother hname, hv]
  cases hvalue : input.2.read now words with
  | some v =>
    have hmem : (input.1, v) ∈ schema.inputValues now words := List.mem_filterMap.mpr ⟨input, h, by rw [hvalue]; rfl⟩
    exact Dict.get?_ofList_of_mem hmem fun e he hname => Option.some.inj ((hread e he hname).symm.trans hvalue)
  | none =>
    refine Dict.get?_ofList_eq_none fun hkey => ?_
    obtain ⟨e, he, hname⟩ := List.mem_map.mp hkey
    rw [hread e he hname] at hvalue
    cases hvalue

/-- Where all names are different, an input has what it reads from the words that are left. -/
theorem slotValue?_input {schema : Schema} (distinct : schema.slotNames.Nodup) (now : Instant) (words : List String)
    {input : String × InputSpec} (h : input ∈ schema.inputs) : schema.slotValue? now words input.1 =
      input.2.read now (inputWords words (usedUp (sharing schema.mentions words))) := by
  obtain ⟨-, hslots, -⟩ := List.nodup_append.mp distinct
  obtain ⟨-, hinputs, hapart⟩ := List.nodup_append.mp hslots
  have hname : input.1 ∉ schema.mentions.map Prod.fst := fun hm => hapart _ hm _ (List.mem_map_of_mem h) rfl
  rw [slotValue?_eq, get?_told_eq_none hname, Option.or_none]
  refine get?_inputValues now _ h fun other hother hsame => ?_
  rw [List.inj_on_of_nodup_map hinputs hother h hsame]

/-- Where all names are different, a mention is what its slot takes. -/
theorem mention?_parseText {schema : Schema} (distinct : schema.slotNames.Nodup) (now : Instant) (text : String) {i : Nat}
    (hslot : schema.mentions[i]? = some slot) : (schema.parseText now text).mention? slot.1 =
      (sharing schema.mentions (Flag.plainWords schema.flags text))[i]?.join.map (·.target) := by
  rw [ParsedArgs.mention?, get?_parseText, slotValue?_mention distinct now hslot, flagValue?_eq]
  cases (sharing schema.mentions (Flag.plainWords schema.flags text))[i]?.join with
  | some t => rfl
  | none => cases (Flag.extract text schema.flags).present.get? slot.1 <;> rfl

/-- The words of a text that spell no flag are shared in one way, and by that the arguments
    are told: no place is used up twice, and the inputs are read from the words at all places
    that are not used up, in order. Under a name the last input that reads something counts,
    then the last mention, then the flag; where all names are different, a mention is what its
    slot takes. -/
theorem parseText_shares (schema : Schema) (now : Instant) (text : String) :
    let words := Flag.plainWords schema.flags text
    ∃ takes rest, (∀ other, Shares schema.mentions words other ↔ other = takes) ∧
      (usedUp takes).Nodup ∧ Remain words (usedUp takes) rest ∧
      rest.length + takes.countP (fun take => take.any (·.consumes)) = words.length ∧
      (∀ name, (schema.parseText now text).get? name =
        ((Dict.ofList (schema.inputValues now rest)).get? name).or
          (((Dict.ofList ((told schema.mentions takes).map fun t => (t.1, ArgValue.mention t.2))).get? name).or
            (schema.flagValue? text name))) ∧
      (schema.slotNames.Nodup → ∀ (i : Nat) (slot : String × MentionSpec), schema.mentions[i]? = some slot →
        (schema.parseText now text).mention? slot.1 = takes[i]?.join.map (·.target)) := by
  intro words
  obtain ⟨hnodup, hlt⟩ := (shares_iff.mpr (rfl : sharing schema.mentions words = _)).nodup_usedUp
  have hremain := remain_inputWords words (usedUp (sharing schema.mentions words))
  refine ⟨sharing schema.mentions words, _, fun other => shares_iff, hnodup, hremain, ?_, fun name => ?_, ?_⟩
  · rw [← length_usedUp]
    exact hremain.length hnodup hlt
  · rw [get?_parseText, slotValue?_eq, Option.or_assoc]
  · intro distinct i slot hslot
    exact mention?_parseText distinct now text hslot

/-! ### Slots that compete for two names -/

namespace Contended

/-- Three slots want the same names; another one reads the second word and leaves it there. -/
def contended : Schema where
  inputs := [("artist", .plain (.onward 0))]
  mentions := [("first", ⟨.onward 0, false, some .remoteUsername⟩), ("bare", ⟨.single 1, false, some .bareUsername⟩),
    ("second", ⟨.onward 0, false, some .remoteUsername⟩), ("third", ⟨.onward 0, false, some .remoteUsername⟩)]
  flags := []

/-- The third slot passes over the word that the first used up, and the fourth goes without. -/
def takings : List (Option Taking) :=
  [some ⟨0, .remoteUsername "one", true⟩, some ⟨1, .remoteUsername "iu", false⟩,
    some ⟨2, .remoteUsername "two", true⟩, none]

end Contended

open Contended in
theorem parseText_shares_contended : contended.slotNames.Nodup ∧
    (contended.parseText 0 "lfm:one iu --debug lfm:two").mention? "bare" = some (.remoteUsername "iu") ∧
    (contended.parseText 0 "lfm:one iu --debug lfm:two").mention? "second" = some (.remoteUsername "two") ∧
    (contended.parseText 0 "lfm:one iu --debug lfm:two").mention? "third" = none := by
  obtain ⟨takes, rest, hunique, -, -, -, -, hmention⟩ := parseText_shares contended 0 "lfm:one iu --debug lfm:two"
  have htakes : takings = takes := (hunique takings).mp (shares_iff.mpr (by decide))
  subst htakes
  have hnames : contended.slotNames.Nodup := by decide
  exact ⟨hnames, hmention hnames 1 _ rfl, hmention hnames 2 _ rfl, hmention hnames 3 _ rfl⟩

end ChatBot.Schema
