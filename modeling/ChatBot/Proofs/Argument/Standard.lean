/-
  ChatBot.Proofs.Argument.Standard — the four standard mentions stay out of each other's way.

  Each reads words of its own form: `<@7>` or `<@!7>`, `lfm:name`, `id:7`, `u:name` (`Refers`,
  `read_slot`). The forms begin with four different characters, so no word is of two
  (`Refers.kind_unique`), and slots that read different words each take what they would take
  if they were alone (`sharing_apart`).

  Proved: `parseText_standard`, for every schema with these four mentions, in whatever order,
  and every text. Each is the first word of its form, the inputs are read from all other words,
  and in any other order of the four the same arguments are told.
-/
import ChatBot.Proofs.Argument.Sharing
import ChatBot.Proofs.Text.Case

namespace ChatBot

open Text

variable {word id : String}

/-! ## Reading one word -/

/-- ASCII digits, at least one. -/
def IsNumber (s : String) : Prop := s ≠ "" ∧ ∀ c ∈ s.toList, isAsciiDigit c = true

theorem isNumber_ofList {cs : List Char} : IsNumber (String.ofList cs) ↔ (!cs.isEmpty && cs.all isAsciiDigit) = true := by
  rw [IsNumber, String.toList_ofList, Bool.and_eq_true, List.all_eq_true]
  refine and_congr_left fun _ => ?_
  cases cs with
  | nil => simp
  | cons c cs => simp

theorem number_eq_some {cs : List Char} :
    (if (!cs.isEmpty && cs.all isAsciiDigit) = true then some (String.ofList cs) else none) = some id ↔
      IsNumber id ∧ cs = id.toList := by
  split
  · rename_i hcs
    constructor
    · intro h
      cases h
      exact ⟨isNumber_ofList.mpr hcs, String.toList_ofList.symm⟩
    · rintro ⟨-, rfl⟩
      rw [String.ofList_toList]
  · rename_i hcs
    refine iff_of_false (fun h => by cases h) ?_
    rintro ⟨hid, rfl⟩
    exact hcs (isNumber_ofList.mp (by rwa [String.ofList_toList]))

theorem platformMention?_of_mark {inner : List Char} (h : word.toList = '<' :: '@' :: (inner ++ ['>'])) :
    platformMention? word = some id ↔ IsNumber id ∧ (inner = id.toList ∨ inner = '!' :: id.toList) := by
  unfold platformMention?
  rw [h]
  simp only [List.reverse_append, List.reverse_singleton, List.singleton_append, List.reverse_reverse]
  refine number_eq_some.trans (and_congr_right fun hid => ?_)
  have hplain (ds : List Char) : '!' :: ds ≠ id.toList := by
    intro hds
    exact absurd (hid.2 '!' (hds ▸ List.mem_cons_self)) (by decide)
  split
  · rename_i ds
    rw [List.cons.injEq]
    exact ⟨fun hds => .inr ⟨rfl, hds⟩, fun hds => (hds.resolve_left (hplain ds)).2⟩
  · rename_i hnick
    exact ⟨.inl, fun hds => hds.resolve_right (hnick id.toList)⟩

theorem exists_mark (h : platformMention? word = some id) : ∃ inner, word.toList = '<' :: '@' :: (inner ++ ['>']) := by
  unfold platformMention? at h
  split at h
  · rename_i rest hword
    split at h
    · rename_i reversed hrest
      refine ⟨reversed.reverse, ?_⟩
      rw [hword, ← List.reverse_cons, ← hrest, List.reverse_reverse]
    · cases h
  · cases h

theorem platformMention?_eq_some : platformMention? word = some id ↔
    IsNumber id ∧ (word = "<@" ++ id ++ ">" ∨ word = "<@!" ++ id ++ ">") := by
  have hplain : word = "<@" ++ id ++ ">" ↔ word.toList = '<' :: '@' :: (id.toList ++ ['>']) := by
    rw [← String.toList_inj, String.toList_append, String.toList_append]
    rfl
  have hnick : word = "<@!" ++ id ++ ">" ↔ word.toList = '<' :: '@' :: ('!' :: id.toList ++ ['>']) := by
    rw [← String.toList_inj, String.toList_append, String.toList_append]
    rfl
  rw [hplain, hnick]
  constructor
  · intro h
    obtain ⟨inner, hword⟩ := exists_mark h
    obtain ⟨hid, rfl | rfl⟩ := (platformMention?_of_mark hword).mp h
    · exact ⟨hid, .inl hword⟩
    · exact ⟨hid, .inr hword⟩
  · rintro ⟨hid, hword | hword⟩
    · exact (platformMention?_of_mark hword).mpr ⟨hid, .inl rfl⟩
    · exact (platformMention?_of_mark hword).mpr ⟨hid, .inr rfl⟩

theorem afterTag?_eq_some {tag rest : String} : afterTag? tag word = some rest.toList ↔
    rest ≠ "" ∧ ∃ head, alike head tag = true ∧ word = head ++ rest := by
  have hdrop : dropAlike tag.toList word.toList = some rest.toList ↔
      ∃ head, alike head tag = true ∧ word = head ++ rest := by
    rw [dropAlike_eq_some]
    constructor
    · rintro ⟨head, hword, hhead⟩
      refine ⟨String.ofList head, by rw [alike_iff, String.toList_ofList, hhead], ?_⟩
      apply String.toList_injective
      rw [hword, String.toList_append, String.toList_ofList]
    · rintro ⟨head, hhead, rfl⟩
      exact ⟨head.toList, String.toList_append, alike_iff.mp hhead⟩
  have hne : rest ≠ "" ↔ rest.toList ≠ [] := not_congr String.toList_eq_nil_iff.symm
  rw [← hdrop, hne, afterTag?]
  split
  · rename_i hnil
    rw [hnil]
    refine iff_of_false (fun h => by cases h) ?_
    rintro ⟨hne, h⟩
    exact hne (Option.some.inj h).symm
  · rename_i hsome
    exact ⟨fun h => ⟨fun hnil => hsome (hnil ▸ h), h⟩, And.right⟩

theorem afterTag?_ofList {tag : String} {cs : List Char} : afterTag? tag word = some cs ↔
    String.ofList cs ≠ "" ∧ ∃ head, alike head tag = true ∧ word = head ++ String.ofList cs := by
  rw [← afterTag?_eq_some, String.toList_ofList]

/-- A name is what comes after the tag. -/
theorem map_afterTag?_eq_some {tag : String} {f : String → MentionTarget} {target : MentionTarget} {consumes : Bool} :
    (afterTag? tag word).map (fun cs => (f (String.ofList cs), true)) = some (target, consumes) ↔
      consumes = true ∧ ∃ head rest, alike head tag = true ∧ rest ≠ "" ∧ word = head ++ rest ∧ target = f rest := by
  rw [Option.map_eq_some_iff]
  constructor
  · rintro ⟨cs, hcs, heq⟩
    cases heq
    obtain ⟨hne, head, hhead, rfl⟩ := afterTag?_ofList.mp hcs
    exact ⟨rfl, head, _, hhead, hne, rfl, rfl⟩
  · rintro ⟨rfl, head, rest, hhead, hne, rfl, rfl⟩
    exact ⟨_, afterTag?_eq_some.mpr ⟨hne, head, hhead, rfl⟩, by rw [String.ofList_toList]⟩

/-- The mentions that most commands accept. -/
inductive StandardMention where
  | user
  | remoteUser
  | userId
  | nickname
  deriving DecidableEq

namespace StandardMention

/-- The slot of a standard mention. -/
def slot : StandardMention → String × MentionSpec
  | user => ("user", ⟨.onward 0, true, none⟩)
  | remoteUser => ("lfmUser", ⟨.onward 0, false, some .remoteUsername⟩)
  | userId => ("userID", ⟨.onward 0, false, some .platformId⟩)
  | nickname => ("discordUsername", ⟨.onward 0, false, some .platformUsername⟩)

/-- The words of each form, and whom they refer to. -/
inductive Refers : StandardMention → (word : String) → MentionTarget → Prop
  | user {ds : String} : IsNumber ds → Refers .user ("<@" ++ ds ++ ">") (.platform ds)
  | userNick {ds : String} : IsNumber ds → Refers .user ("<@!" ++ ds ++ ">") (.platform ds)
  | remoteUser {tag rest : String} : alike tag "lfm:" = true → rest ≠ "" →
    Refers .remoteUser (tag ++ rest) (.remoteUsername rest)
  | userId {tag ds : String} : alike tag "id:" = true → IsNumber ds → Refers .userId (tag ++ ds) (.platformId ds)
  | nickname {tag rest : String} : alike tag "u:" = true → rest ≠ "" →
    Refers .nickname (tag ++ rest) (.platformUsername (lower rest))

/-- The character that words of each form begin with, up to case. -/
def initial : StandardMention → Char
  | user => '<'
  | remoteUser => 'l'
  | userId => 'i'
  | nickname => 'u'

variable {kind kind' : StandardMention} {word : String} {target target' : MentionTarget} {consumes : Bool}

/-! ## The words of each form -/

theorem standard_eq : MentionSpec.standard = [user, remoteUser, userId, nickname].map slot := rfl

theorem slot_mem (kind : StandardMention) : kind.slot ∈ MentionSpec.standard := by
  rw [standard_eq]
  cases kind <;> simp

theorem exists_slot {s : String × MentionSpec} (h : s ∈ MentionSpec.standard) : ∃ kind : StandardMention, s = kind.slot := by
  rw [standard_eq] at h
  obtain ⟨kind, -, rfl⟩ := List.mem_map.mp h
  exact ⟨kind, rfl⟩

theorem read_user : user.slot.2.read word = some (target, consumes) ↔ consumes = true ∧ user.Refers word target := by
  have hread : user.slot.2.read word = (platformMention? word).map fun id => (.platform id, true) := by
    unfold MentionSpec.read slot
    rw [if_pos rfl]
    cases platformMention? word <;> rfl
  rw [hread, Option.map_eq_some_iff]
  constructor
  · rintro ⟨id, hid, heq⟩
    cases heq
    obtain ⟨hnumber, rfl | rfl⟩ := platformMention?_eq_some.mp hid
    · exact ⟨rfl, .user hnumber⟩
    · exact ⟨rfl, .userNick hnumber⟩
  · rintro ⟨rfl, hid | hid⟩
    · exact ⟨_, platformMention?_eq_some.mpr ⟨hid, .inl rfl⟩, rfl⟩
    · exact ⟨_, platformMention?_eq_some.mpr ⟨hid, .inr rfl⟩, rfl⟩

theorem read_remoteUser :
    remoteUser.slot.2.read word = some (target, consumes) ↔ consumes = true ∧ remoteUser.Refers word target := by
  have hread : remoteUser.slot.2.read word =
      (afterTag? "lfm:" word).map fun cs => (.remoteUsername (String.ofList cs), true) := Option.map_map _ _ _
  rw [hread, map_afterTag?_eq_some]
  refine and_congr_right fun _ => ⟨?_, fun hrefers => ?_⟩
  · rintro ⟨head, rest, hhead, hne, rfl, rfl⟩
    exact .remoteUser hhead hne
  · cases hrefers with
    | remoteUser hhead hne => exact ⟨_, _, hhead, hne, rfl, rfl⟩

theorem read_userId : userId.slot.2.read word = some (target, consumes) ↔ consumes = true ∧ userId.Refers word target := by
  have hread : userId.slot.2.read word = (afterTag? "id:" word).bind fun cs =>
      if cs.all isAsciiDigit then some (.platformId (String.ofList cs), true) else none := by
    have hreader : userId.slot.2.read word = (MentionReader.platformId.read word).map fun t => (t, true) := rfl
    rw [hreader, MentionReader.platformId]
    dsimp only
    cases afterTag? "id:" word with
    | none => rfl
    | some cs =>
      dsimp only
      rw [Option.bind_some]
      split <;> rfl
  rw [hread, Option.bind_eq_some_iff]
  constructor
  · rintro ⟨cs, hcs, heq⟩
    split at heq
    · rename_i hdigits
      cases heq
      obtain ⟨hne, head, hhead, rfl⟩ := afterTag?_ofList.mp hcs
      refine ⟨rfl, .userId hhead ⟨hne, fun c hc => ?_⟩⟩
      rw [String.toList_ofList] at hc
      exact List.all_eq_true.mp hdigits c hc
    · cases heq
  · rintro ⟨rfl, hrefers⟩
    cases hrefers with
    | userId hhead hnumber =>
      refine ⟨_, afterTag?_eq_some.mpr ⟨hnumber.1, _, hhead, rfl⟩, ?_⟩
      rw [if_pos (List.all_eq_true.mpr hnumber.2), String.ofList_toList]

theorem read_nickname :
    nickname.slot.2.read word = some (target, consumes) ↔ consumes = true ∧ nickname.Refers word target := by
  have hread : nickname.slot.2.read word =
      (afterTag? "u:" word).map fun cs => (.platformUsername (lower (String.ofList cs)), true) := Option.map_map _ _ _
  rw [hread, map_afterTag?_eq_some (f := fun name => .platformUsername (lower name))]
  refine and_congr_right fun _ => ⟨?_, fun hrefers => ?_⟩
  · rintro ⟨head, rest, hhead, hne, rfl, rfl⟩
    exact .nickname hhead hne
  · cases hrefers with
    | nickname hhead hne => exact ⟨_, _, hhead, hne, rfl, rfl⟩

/-- A standard slot reads the words of its form, and uses them up. -/
theorem read_slot : kind.slot.2.read word = some (target, consumes) ↔ consumes = true ∧ kind.Refers word target := by
  cases kind with
  | user => exact read_user
  | remoteUser => exact read_remoteUser
  | userId => exact read_userId
  | nickname => exact read_nickname

/-- A word of a form begins with the character of the form. -/
theorem Refers.initial_eq (h : kind.Refers word target) : ∃ c rest, word.toList = c :: rest ∧ c.toLower = kind.initial := by
  have htag {tag head rest : String} (halike : alike tag head = true) {c : Char} {cs : List Char}
      (hhead : head.toList.map Char.toLower = c :: cs) : ∃ d ds, (tag ++ rest).toList = d :: ds ∧ d.toLower = c := by
    obtain ⟨d, ds, hd, hlower, -⟩ := List.map_eq_cons_iff.mp ((alike_iff.mp halike).trans hhead)
    exact ⟨d, ds ++ rest.toList, by rw [String.toList_append, hd, List.cons_append], hlower⟩
  cases h with
  | user => exact ⟨'<', _, by rw [String.toList_append, String.toList_append]; rfl, rfl⟩
  | userNick => exact ⟨'<', _, by rw [String.toList_append, String.toList_append]; rfl, rfl⟩
  | remoteUser halike => exact htag halike rfl
  | userId halike => exact htag halike rfl
  | nickname halike => exact htag halike rfl

theorem initial_inj (h : kind.initial = kind'.initial) : kind = kind' := by
  revert h
  cases kind <;> cases kind' <;> decide

/-- No word is of two forms. -/
theorem Refers.kind_unique (h : kind.Refers word target) (h' : kind'.Refers word target') : kind = kind' := by
  obtain ⟨c, rest, hword, hc⟩ := h.initial_eq
  obtain ⟨c', rest', hword', hc'⟩ := h'.initial_eq
  obtain ⟨rfl, -⟩ := List.cons.inj (hword.symm.trans hword')
  exact initial_inj (hc.symm.trans hc')

end StandardMention

namespace Schema

/-- No word is read by both slots. -/
def Apart (a b : String × MentionSpec) : Prop := ∀ word, a.2.read word = none ∨ b.2.read word = none

/-- What a slot takes when no place is used up. -/
def alone (words : List String) (slot : String × MentionSpec) : Option Taking := taken slot.2 words []

/-- The first word of a form, its place and whom it refers to. -/
structure First (words : List String) (kind : StandardMention) (place : Nat) (target : MentionTarget) : Prop where
  refers : ∃ word, words[place]? = some word ∧ kind.Refers word target
  first : ∀ p < place, ∀ word, words[p]? = some word → ∀ other, ¬ kind.Refers word other

variable {a b slot : String × MentionSpec} {slots : List (String × MentionSpec)}
  {words : List String} {used used' : List Nat} {t : Taking} {takes : List (Option Taking)} {kind kind' : StandardMention}
  {schema : Schema}

/-! ## Slots that read different words -/

theorem Apart.symm (h : Apart a b) : Apart b a := fun word => (h word).symm

theorem alone_eq_some : alone words slot = some t ↔ Turn slot.2 words [] (some t) := by
  have hturn := turn_taken slot.2 words []
  exact ⟨fun h => h ▸ hturn, hturn.unique⟩

/-- Where only words are used up that a slot does not read, it takes what it takes alone. -/
theorem taken_eq_alone (h : ∀ p ∈ used, ∀ word, words[p]? = some word → slot.2.read word = none) :
    taken slot.2 words used = alone words slot := by
  rw [alone, taken, taken, firstMention, firstMention]
  congr 2
  funext p
  rw [List.contains_nil, if_neg Bool.false_ne_true]
  split
  · rename_i hused
    refine (Option.bind_eq_none_iff.mpr fun word hword => ?_).symm
    rw [h p (List.contains_iff_mem.mp hused) word hword]
    rfl
  · rfl

theorem mem_usedUp {p : Nat} : p ∈ usedUp takes ↔ ∃ t, some t ∈ takes ∧ t.consumes = true ∧ t.place = p := by
  simp only [usedUp, List.mem_filterMap, Option.bind_eq_some_iff]
  constructor
  · rintro ⟨-, ht, t, rfl, hp⟩
    split at hp
    · rename_i hconsumes
      exact ⟨t, ht, hconsumes, Option.some.inj hp⟩
    · cases hp
  · rintro ⟨t, ht, hconsumes, rfl⟩
    exact ⟨some t, ht, t, rfl, if_pos hconsumes⟩

/-- Slots that read different words each take what they take alone. -/
theorem sharing_apart (apart : slots.Pairwise Apart) (words : List String) : sharing slots words = slots.map (alone words) := by
  induction slots using List.reverseRecOn with
  | nil => rfl
  | append_singleton slots slot ih =>
    obtain ⟨hslots, -, hlast⟩ := List.pairwise_append.mp apart
    rw [sharing_concat, ih hslots, List.map_append, List.map_singleton, taken_eq_alone]
    intro p hp word hword
    obtain ⟨t, ht, -, rfl⟩ := mem_usedUp.mp hp
    obtain ⟨other, hother, halone⟩ := List.mem_map.mp ht
    cases alone_eq_some.mp halone with
    | takes _ _ hword' hread =>
      cases hword'.symm.trans hword
      exact (hlast other hother slot List.mem_cons_self word).resolve_left (by simp [hread])

theorem inputWords_congr (h : ∀ p, p ∈ used ↔ p ∈ used') : inputWords words used = inputWords words used' := by
  simp only [inputWords, List.contains_eq_mem, h]

theorem told_alone (slots : List (String × MentionSpec)) (words : List String) :
    told slots (slots.map (alone words)) = slots.filterMap fun s => (alone words s).map fun t => (s.1, t.target) := by
  induction slots with
  | nil => rfl
  | cons slot slots ih =>
    rw [List.map_cons, told_cons, ih, List.filterMap_cons]
    cases alone words slot <;> rfl

/-- In which order slots are declared that read different words does not count. -/
theorem get?_parseText_perm (distinct : (schema.mentions.map Prod.fst).Nodup) (apart : schema.mentions.Pairwise Apart)
    (perm : slots.Perm schema.mentions) (now : Instant) (text name : String) :
    ({ schema with mentions := slots }.parseText now text).get? name = (schema.parseText now text).get? name := by
  have hapart : slots.Pairwise Apart := (perm.pairwise_iff Apart.symm).mpr apart
  have hgone (words : List String) (p : Nat) :
      p ∈ usedUp (slots.map (alone words)) ↔ p ∈ usedUp (schema.mentions.map (alone words)) :=
    ((perm.map _).filterMap _).mem_iff
  have htold (words : List String) :
      (Dict.ofList ((told slots (slots.map (alone words))).map fun t => (t.1, ArgValue.mention t.2))).get? name =
        (Dict.ofList ((told schema.mentions (schema.mentions.map (alone words))).map
          fun t => (t.1, ArgValue.mention t.2))).get? name := by
    refine (Dict.get?_ofList_perm ?_ ?_ name).symm
    · rw [told_alone, told_alone]
      exact ((perm.filterMap _).map _).symm
    · rw [List.map_map]
      exact (sublist_told _ _).nodup distinct
  have hvalue (words : List String) :
      { schema with mentions := slots }.slotValue? now words name = schema.slotValue? now words name := by
    simp only [slotValue?_eq, sharing_apart hapart, sharing_apart apart]
    rw [inputWords_congr (hgone words), htold words]
    rfl
  rw [get?_parseText, get?_parseText, hvalue]
  rfl

/-! ## The standard mentions -/

theorem apart_slot (h : kind ≠ kind') : Apart kind.slot kind'.slot := by
  intro word
  cases hread : kind.slot.2.read word with
  | none => exact .inl rfl
  | some r => cases hread' : kind'.slot.2.read word with
    | none => exact .inr rfl
    | some r' => exact absurd ((StandardMention.read_slot.mp hread).2.kind_unique (StandardMention.read_slot.mp hread').2) h

theorem apart_standard (standard : slots.Perm MentionSpec.standard) : slots.Pairwise Apart := by
  refine (standard.pairwise_iff Apart.symm).mpr ?_
  rw [StandardMention.standard_eq, List.pairwise_map]
  have hdifferent : [StandardMention.user, .remoteUser, .userId, .nickname].Pairwise (· ≠ ·) := by decide
  exact hdifferent.imp apart_slot

theorem mem_covered_onward (p count : Nat) : p ∈ (Index.onward 0).covered count ↔ p < count := by
  simp only [Index.covered, Index.positions, UInt64.toNat_zero]
  split
  · simp
  · simp
    omega

/-- A standard slot takes the first word of its form, when it is alone. -/
theorem alone_slot : alone words kind.slot = some t ↔ t.consumes = true ∧ First words kind t.place t.target := by
  have hindex : kind.slot.2.index = .onward 0 := by cases kind <;> rfl
  rw [alone_eq_some]
  constructor
  · intro hturn
    cases hturn with
    | takes hplace hfree hword hread hfirst =>
      obtain ⟨rfl, hrefers⟩ := StandardMention.read_slot.mp hread
      refine ⟨rfl, ⟨_, hword, hrefers⟩, fun p hp word hword' other hother => ?_⟩
      have hcovered : p ∈ kind.slot.2.index.covered words.length := by
        rw [hindex, mem_covered_onward]
        exact (List.getElem?_eq_some_iff.mp hword').1
      have hnone := hfirst p hcovered hp List.not_mem_nil word hword'
      rw [StandardMention.read_slot.mpr ⟨rfl, hother⟩] at hnone
      cases hnone
  · rintro ⟨hconsumes, ⟨word, hword, hrefers⟩, hfirst⟩
    obtain ⟨place, target, consumes⟩ := t
    cases hconsumes
    refine .takes ?_ List.not_mem_nil hword (StandardMention.read_slot.mpr ⟨rfl, hrefers⟩) fun q _ hlt _ word' hword' => ?_
    · rw [hindex, mem_covered_onward]
      exact (List.getElem?_eq_some_iff.mp hword).1
    · refine Option.eq_none_iff_forall_ne_some.mpr fun r hread => ?_
      exact hfirst q hlt word' hword' r.1 (StandardMention.read_slot.mp hread).2

theorem mem_usedUp_standard (standard : slots.Perm MentionSpec.standard) {p : Nat} :
    p ∈ usedUp (sharing slots words) ↔ ∃ kind target, First words kind p target := by
  rw [sharing_apart (apart_standard standard), mem_usedUp]
  constructor
  · rintro ⟨t, ht, -, rfl⟩
    obtain ⟨slot, hslot, halone⟩ := List.mem_map.mp ht
    obtain ⟨kind, rfl⟩ := StandardMention.exists_slot (standard.mem_iff.mp hslot)
    exact ⟨kind, t.target, (alone_slot.mp halone).2⟩
  · rintro ⟨kind, target, hfirst⟩
    have halone : alone words kind.slot = some ⟨p, target, true⟩ := alone_slot.mpr ⟨rfl, hfirst⟩
    exact ⟨_, List.mem_map.mpr ⟨kind.slot, standard.mem_iff.mpr kind.slot_mem, halone⟩, rfl, rfl⟩

/-- Where the mentions are the four standard ones, each is the first word of its form among
    those that spell no flag, or it is absent. The inputs are read from all other words, in
    order; one that is named as the flag that every command has, and reads nothing, lets the
    flag be seen. The order of the four makes no difference to the arguments. -/
theorem parseText_standard (schema : Schema) (now : Instant) (text : String) (distinct : schema.slotNames.Nodup)
    (standard : schema.mentions.Perm MentionSpec.standard) :
    let words := Flag.plainWords schema.flags text
    (∀ (kind : StandardMention) (value : ArgValue), (schema.parseText now text).get? kind.slot.1 = some value ↔
      ∃ place target, First words kind place target ∧ value = .mention target) ∧
    (∃ gone rest, (∀ p, p ∈ gone ↔ ∃ kind target, First words kind p target) ∧ Remain words gone rest ∧
      ∀ input ∈ schema.inputs, (schema.parseText now text).get? input.1 =
        (input.2.read now rest).or (schema.flagValue? text input.1)) ∧
    ∀ mentions, mentions.Perm schema.mentions →
      (∀ name, ({ schema with mentions }.parseText now text).get? name = (schema.parseText now text).get? name) ∧
      ({ schema with mentions }.parseText now text).sorted = (schema.parseText now text).sorted := by
  intro words
  have hapart := apart_standard standard
  have hmentions : (schema.mentions.map Prod.fst).Nodup :=
    (List.nodup_append.mp (List.nodup_append.mp distinct).2.1).1
  refine ⟨fun kind value => ?_, ⟨_, _, fun p => mem_usedUp_standard standard, remain_inputWords words _, ?_⟩, ?_⟩
  · have hmem : kind.slot ∈ schema.mentions := standard.mem_iff.mpr kind.slot_mem
    have hflag : schema.flagValue? text kind.slot.1 = none := by
      refine flagValue?_eq_none fun heffective => ?_
      have hdeclared : kind.slot.1 ∉ schema.flags.map Prod.fst := fun h =>
        (List.nodup_append.mp distinct).2.2 _ h _ (List.mem_append_left _ (List.mem_map_of_mem hmem)) rfl
      have hdebug := Flag.eq_debug_of_mem_effective heffective hdeclared
      cases kind <;> exact absurd hdebug (by decide)
    obtain ⟨i, hi⟩ := List.mem_iff_getElem?.mp hmem
    rw [get?_parseText, hflag, Option.or_none, slotValue?_mention distinct now hi, sharing_apart hapart, List.getElem?_map, hi]
    simp only [Option.map_some, Option.join_some, Option.map_eq_some_iff]
    constructor
    · rintro ⟨target, ⟨t, ht, rfl⟩, rfl⟩
      exact ⟨t.place, t.target, (alone_slot.mp ht).2, rfl⟩
    · rintro ⟨place, target, hfirst, rfl⟩
      exact ⟨target, ⟨⟨place, target, true⟩, alone_slot.mpr ⟨rfl, hfirst⟩, rfl⟩, rfl⟩
  · intro input hinput
    rw [get?_parseText, slotValue?_input distinct now words hinput]
  · intro mentions perm
    have hsame := get?_parseText_perm hmentions hapart perm now text
    exact ⟨hsame, Dict.sorted_congr (Dict.nodup_ofList _) (Dict.nodup_ofList _) hsame⟩

/-! ### The four in another order -/

namespace Mixed

def mixed : Schema where
  inputs := [("artist", .plain (.onward 0))]
  mentions := [StandardMention.nickname, .userId, .user, .remoteUser].map StandardMention.slot
  flags := []

/-- Mentions of each form, two of them of one form, and `--debug`. -/
def message : String := "u:Bob red <@!7> --debug LFM:joe <@8> ID:12"

end Mixed

open Mixed in
theorem parseText_standard_mixed : mixed.slotNames.Nodup ∧ mixed.mentions.Perm MentionSpec.standard ∧
    (mixed.parseText 0 message).get? "user" = some (.mention (.platform "7")) ∧
    ({ mixed with mentions := MentionSpec.standard }.parseText 0 message).get? "artist" = some (.text "red <@8>") := by
  have hnames : mixed.slotNames.Nodup := by decide
  have hstandard : mixed.mentions.Perm MentionSpec.standard := by
    have horder : [StandardMention.nickname, .userId, .user, .remoteUser].Perm [.user, .remoteUser, .userId, .nickname] := by
      decide
    exact horder.map StandardMention.slot
  obtain ⟨hmention, -, horder⟩ := parseText_standard mixed 0 message hnames hstandard
  have hwords : Flag.plainWords mixed.flags message = ["u:Bob", "red", "<@!7>", "LFM:joe", "<@8>", "ID:12"] := by
    decide
  have hdigits : IsNumber (String.ofList ['7']) := isNumber_ofList.mpr rfl
  have hbefore : ∀ word ∈ ["u:Bob", "red"], StandardMention.user.slot.2.read word = none := by decide
  refine ⟨hnames, hstandard, (hmention .user _).mpr ⟨2, .platform "7", ?_, rfl⟩, ?_⟩
  · rw [hwords]
    refine ⟨⟨"<@!7>", rfl, .userNick hdigits⟩, fun q hq word hword other hrefers => ?_⟩
    rw [← List.getElem?_take_of_lt hq] at hword
    have hread := StandardMention.read_slot.mpr ⟨rfl, hrefers⟩
    rw [hbefore word (List.mem_of_getElem? hword)] at hread
    cases hread
  · rw [(horder _ hstandard.symm).1 "artist"]
    rfl

end Schema

end ChatBot
