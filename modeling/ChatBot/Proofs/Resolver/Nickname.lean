/-
  ChatBot.Proofs.Resolver.Nickname — members who are mentioned by the name that is displayed.

  The word `u:` and a name is read as the name in lowercase (`mention?_nickname`), by the rules
  of Unicode. The directory compares that with the names of the members up to the case of ASCII
  letters. Whom nobody in the server is named alike cannot be found (`resolve_notFound`), so a
  member can be mentioned by a name exactly when lowercasing it changes ASCII letters only, or
  when another member happens to be named as the result.

  Proved: `resolve_nickname`, for every directory, every schema with the standard mentions, and
  stores that may fail.
  - `not_resolve_nickname`: `u:École` is nobody, where a member is displayed as `École`.
-/
import ChatBot.Proofs.Argument.Standard
import ChatBot.Proofs.Resolver.Precedence
import ChatBot.Proofs.Text.Words

namespace ChatBot

open Text CommandError

/-- The options read the arguments that the standard mentions give. -/
structure ResolverOptions.ReadsStandard (options : ResolverOptions) : Prop where
  user : options.userArgument = StandardMention.user.slot.1
  remoteUser : options.remoteMentionArgument = StandardMention.remoteUser.slot.1
  userId : options.idMentionArgument = StandardMention.userId.slot.1
  nickname : options.platformUsernameArgument = StandardMention.nickname.slot.1

variable {name n : String} {kind : StandardMention} {target : MentionTarget}

/-! ## The word -/

theorem refers_nickname (h : n ≠ "") : StandardMention.nickname.Refers ("u:" ++ n) (.platformUsername (lower n)) :=
  .nickname (alike_refl "u:") h

theorem read_slot_nickname (h : n ≠ "") :
    StandardMention.nickname.slot.2.read ("u:" ++ n) = some (.platformUsername (lower n), true) :=
  StandardMention.read_slot.mpr ⟨rfl, refers_nickname h⟩

/-- No other standard mention reads it. -/
theorem eq_nickname_of_read {r : MentionTarget × Bool} (h : n ≠ "") (hread : kind.slot.2.read ("u:" ++ n) = some r) :
    kind = .nickname :=
  (StandardMention.read_slot.mp hread).2.kind_unique (refers_nickname h)

/-- The word is one, and spells no flag. -/
theorem plainWords_nickname (flags : List (String × Flag)) (h : IsWord n) :
    Flag.plainWords flags ("u:" ++ n) = ["u:" ++ n] := by
  have hchars : ("u:" ++ n).toList = 'u' :: ':' :: n.toList := String.toList_append
  have hword : IsWord ("u:" ++ n) := by
    refine ⟨fun hempty => ?_, fun c hc => ?_⟩
    · rw [hempty] at hchars
      cases hchars
    · rw [hchars, List.mem_cons, List.mem_cons] at hc
      rcases hc with rfl | rfl | hc
      · rfl
      · rfl
      · exact h.not_blank c hc
  have hplain : Flag.spells flags ("u:" ++ n) = false := by
    refine List.any_eq_false.mpr fun f _ => ?_
    rw [Flag.spelledBy, hchars]
    exact Bool.false_ne_true
  rw [Flag.plainWords, hword.wordsOf_self, List.filter_cons, hplain]
  rfl

namespace Schema

variable {schema : Schema} {now : Instant}

/-- What a slot takes of the one word. -/
theorem Turn.of_singleton {spec : MentionSpec} {word : String} {used : List Nat} {take : Option Taking}
    (h : Turn spec [word] used take) : take = none ∨ ∃ r, spec.read word = some r ∧ take = some ⟨0, r.1, r.2⟩ := by
  cases h with
  | passes => exact .inl rfl
  | @takes p w target consumes _ _ hword hread =>
    obtain ⟨hp, rfl⟩ := List.getElem?_eq_some_iff.mp hword
    obtain rfl : p = 0 := by simpa using hp
    exact .inr ⟨_, hread, rfl⟩

variable {text word name : String} {slot : String × MentionSpec}

/-- Of a text with one word, a mention is what its slot reads. -/
theorem read_of_mention? (distinct : schema.slotNames.Nodup) (hslot : slot ∈ schema.mentions)
    (hwords : Flag.plainWords schema.flags text = [word])
    (hmention : (schema.parseText now text).mention? slot.1 = some target) :
    ∃ consumes, slot.2.read word = some (target, consumes) := by
  obtain ⟨i, hi⟩ := List.mem_iff_getElem?.mp hslot
  rw [mention?_parseText distinct now text hi, hwords] at hmention
  obtain ⟨t, ht, rfl⟩ := Option.map_eq_some_iff.mp hmention
  have hturn := (shares_iff.mpr rfl).turn i slot (some t) hi (Option.join_eq_some_iff.mp ht)
  rcases hturn.of_singleton with hnone | ⟨r, hread, htake⟩
  · cases hnone
  · cases htake
    exact ⟨r.2, hread⟩

/-- What is used up before a slot has its turn was taken in an earlier turn. -/
theorem Shares.exists_earlier {slots : List (String × MentionSpec)} {words : List String} {takes : List (Option Taking)}
    {i place : Nat} (h : Shares slots words takes) (hused : place ∈ usedUp (takes.take i)) :
    ∃ j < i, ∃ other taking, slots[j]? = some other ∧
      Turn other.2 words (usedUp (takes.take j)) (some taking) ∧ taking.place = place := by
  obtain ⟨taking, htaking, -, hplace⟩ := mem_usedUp.mp hused
  obtain ⟨j, hj⟩ := List.mem_iff_getElem?.mp htaking
  rw [List.getElem?_take] at hj
  split at hj
  · rename_i hlt
    have hslots : j < slots.length := h.length ▸ (List.getElem?_eq_some_iff.mp hj).1
    have hother : slots[j]? = some slots[j] := List.getElem?_eq_getElem hslots
    exact ⟨j, hlt, slots[j], taking, hother, h.turn j _ _ hother hj, hplace⟩
  · cases hj

/-- Where no other slot reads the one word, the mention is there. -/
theorem mention?_of_read (now : Instant) (distinct : schema.slotNames.Nodup) (hslot : slot ∈ schema.mentions)
    (hwords : Flag.plainWords schema.flags text = [word]) {consumes : Bool}
    (hread : slot.2.read word = some (target, consumes)) (hplace : 0 ∈ slot.2.index.covered 1)
    (honly : ∀ other ∈ schema.mentions, other ≠ slot → other.2.read word = none) :
    (schema.parseText now text).mention? slot.1 = some target := by
  have hmentions : (schema.mentions.map Prod.fst).Nodup :=
    (List.nodup_append.mp (List.nodup_append.mp distinct).2.1).1
  obtain ⟨i, hi⟩ := List.mem_iff_getElem?.mp hslot
  have hshares : Shares schema.mentions [word] (sharing schema.mentions [word]) := shares_iff.mpr rfl
  obtain ⟨take, htake⟩ : ∃ take, (sharing schema.mentions [word])[i]? = some take :=
    ⟨_, List.getElem?_eq_getElem (hshares.length ▸ (List.getElem?_eq_some_iff.mp hi).1)⟩
  -- no slot before this one reads the word, so none has used it up
  have hfree : 0 ∉ usedUp ((sharing schema.mentions [word]).take i) := by
    intro hused
    obtain ⟨j, hlt, other, taking, hother, hturn, -⟩ := hshares.exists_earlier hused
    have hne : other ≠ slot := by
      rintro rfl
      have hsame := (List.getElem?_inj (List.getElem?_eq_some_iff.mp hi).1 hmentions.of_map).mp (hi.trans hother.symm)
      omega
    rcases hturn.of_singleton with hnone | ⟨r, hr, -⟩
    · cases hnone
    · rw [honly other (List.mem_of_getElem? hother) hne] at hr
      cases hr
  have hturn := hshares.turn i slot take hi htake
  rw [mention?_parseText distinct now text hi, hwords, htake]
  rcases hturn.of_singleton with rfl | ⟨r, hr, rfl⟩
  · cases hturn with
    | passes hrefused =>
      have hnone := hrefused 0 hplace hfree word rfl
      rw [hread] at hnone
      cases hnone
  · cases hread.symm.trans hr
    rfl

end Schema

namespace Resolver

variable {r : Resolver} {stores : Stores} {args : ParsedArgs} {message : InboundMessage} {options : ResolverOptions}
  {schema : Schema} {now : Instant} {d : Directory} {guild id what : String}

/-! ## Where somebody cannot be found -/

theorem orFail_ne_notFound {α : Type} (x : Except ServiceError α) : orFail x ≠ .error (.notFound what) := by
  intro h
  obtain ⟨cause, -, hcause⟩ := orFail_eq_error.mp h
  cases hcause

theorem remoteTarget_ne_notFound : r.remoteTarget stores name options ≠ .error (.notFound what) := by
  intro h
  rcases bind_eq_error.mp h with h | ⟨identity, -, h⟩
  · unfold ownerOf at h
    split at h
    · exact orFail_ne_notFound _ h
    · cases h
  · split at h <;> cases h

theorem platformTarget_ne_notFound : platformTarget stores id options ≠ .error (.notFound what) := by
  intro h
  rcases bind_eq_error.mp h with h | ⟨identity, -, h⟩
  · exact orFail_ne_notFound _ h
  · dsimp only at h
    split at h <;> cases h

/-- Only a nickname is looked up among the members. -/
theorem idFrom_eq_notFound {heard : Source → Option String} (h : r.idFrom stores message heard = .error (.notFound what)) :
    ∃ name guild, heard .nickname = some name ∧ message.guildId = some guild ∧
      stores.findMember guild name = .ok none ∧ what = "A member named `" ++ name ++ "`" := by
  unfold idFrom at h
  split at h
  · cases h
  · split at h
    · cases h
    · split at h
      · rename_i name d guild hname hd hguild
        refine ⟨name, guild, hname, hguild, ?_⟩
        rcases bind_eq_error.mp h with h | ⟨member, hmember, h⟩
        · exact absurd h (orFail_ne_notFound _)
        · cases member with
          | some member => cases h
          | none =>
            cases h
            exact ⟨orFail_eq_ok.mp hmember, rfl⟩
      · cases h

theorem resolve_eq_notFound (h : r.resolve stores args message options = .error (.notFound what)) :
    ∃ name guild, Source.read options args .nickname = some name ∧ message.guildId = some guild ∧
      stores.findMember guild name = .ok none ∧ what = "A member named `" ++ name ++ "`" := by
  rcases bind_eq_error.mp h with h | ⟨sender, -, h⟩
  · exact absurd h (orFail_ne_notFound _)
  rcases bind_eq_error.mp h with h | ⟨target, -, h⟩
  · rw [mentioned_eq, targetFrom] at h
    split at h
    · exact absurd h remoteTarget_ne_notFound
    · rcases bind_eq_error.mp h with h | ⟨id, -, h⟩
      · exact idFrom_eq_notFound h
      · split at h
        · exact absurd h platformTarget_ne_notFound
        · split at h
          · exact absurd h remoteTarget_ne_notFound
          · cases h
  · split at h <;> cases h

theorem findMember_eq_ok_none (hd : stores.directory = some d) : stores.findMember guild name = .ok none ↔
    stores.outages .findMember = none ∧ ∀ u ∈ d.membersOf guild, Directory.isNamed name u = false := by
  rw [Stores.findMember, hd]
  refine Stores.ask_eq_ok.trans (and_congr_right fun _ => ?_)
  simp only [Directory.findMember?, List.find?_eq_none, Bool.not_eq_true]

/-! ## The arguments of the one word -/

/-- The other standard mentions read nothing, and the nickname can be no other name. -/
theorem read_nickname (now : Instant) (standard : MentionSpec.standard ⊆ schema.mentions) (distinct : schema.slotNames.Nodup)
    (reads : options.ReadsStandard) (word : IsWord n) :
    let heard := Source.read options (schema.parseText now ("u:" ++ n))
    heard .remoteMention = none ∧ heard .userArgument = none ∧ heard .idMention = none ∧
      ∀ name, heard .nickname = some name → name = lower n := by
  have hread {kind : StandardMention} {target : MentionTarget}
      (h : (schema.parseText now ("u:" ++ n)).mention? kind.slot.1 = some target) :
      kind = .nickname ∧ target = .platformUsername (lower n) := by
    obtain ⟨consumes, hread⟩ := Schema.read_of_mention? distinct (standard kind.slot_mem)
      (plainWords_nickname schema.flags word) h
    obtain rfl := eq_nickname_of_read word.ne_empty hread
    rw [read_slot_nickname word.ne_empty] at hread
    cases hread
    exact ⟨rfl, rfl⟩
  have hother (kind : StandardMention) (hkind : kind ≠ .nickname) :
      (schema.parseText now ("u:" ++ n)).mention? kind.slot.1 = none :=
    Option.eq_none_iff_forall_ne_some.mpr fun _ h => hkind (hread h).1
  refine ⟨?_, ?_, ?_, fun name hname => ?_⟩
  · simp only [Source.read, reads.remoteUser, hother .remoteUser (by decide)]
  · simp only [Source.read, reads.user, hother .user (by decide), Option.bind_none]
  · simp only [Source.read, reads.userId, hother .userId (by decide), Option.bind_none]
  · simp only [Source.read, reads.nickname] at hname
    split at hname
    · rename_i hmention
      cases hname
      exact MentionTarget.platformUsername.inj (hread hmention).2
    · cases hname

/-- Where only standard mentions read the word, the nickname is read. -/
theorem read_nickname_eq (now : Instant) (standard : MentionSpec.standard ⊆ schema.mentions) (distinct : schema.slotNames.Nodup)
    (reads : options.ReadsStandard) (word : IsWord n)
    (only : ∀ slot ∈ schema.mentions, slot ∉ MentionSpec.standard → slot.2.read ("u:" ++ n) = none) :
    Source.read options (schema.parseText now ("u:" ++ n)) .nickname = some (lower n) := by
  have honly : ∀ other ∈ schema.mentions, other ≠ StandardMention.nickname.slot → other.2.read ("u:" ++ n) = none := by
    intro other hother hne
    by_cases hstandard : other ∈ MentionSpec.standard
    · obtain ⟨kind, rfl⟩ := StandardMention.exists_slot hstandard
      refine Option.eq_none_iff_forall_ne_some.mpr fun result hread => hne ?_
      rw [eq_nickname_of_read word.ne_empty hread]
    · exact only other hother hstandard
  have hmention := Schema.mention?_of_read now distinct (standard StandardMention.nickname.slot_mem)
    (plainWords_nickname schema.flags word) (read_slot_nickname word.ne_empty) (by decide) honly
  simp only [Source.read, reads.nickname, hmention]

/-- Whom nobody in the server is named alike cannot be found. -/
theorem resolve_notFound (standard : MentionSpec.standard ⊆ schema.mentions) (distinct : schema.slotNames.Nodup)
    (reads : options.ReadsStandard) (word : IsWord n)
    (only : ∀ slot ∈ schema.mentions, slot ∉ MentionSpec.standard → slot.2.read ("u:" ++ n) = none)
    (hd : stores.directory = some d) (hguild : message.guildId = some guild)
    (hsender : stores.outages .user = none) (hfind : stores.outages .findMember = none)
    (nobody : ∀ u ∈ d.membersOf guild, Directory.isNamed (lower n) u = false) :
    r.resolve stores (schema.parseText now ("u:" ++ n)) message options =
      .error (.notFound ("A member named `" ++ lower n ++ "`")) := by
  obtain ⟨hremote, huser, hid, -⟩ := read_nickname now standard distinct reads word
  have hname := read_nickname_eq now standard distinct reads word only
  have htarget : r.mentioned stores (schema.parseText now ("u:" ++ n)) message options =
      .error (.notFound ("A member named `" ++ lower n ++ "`")) := by
    rw [mentioned_eq, targetFrom_nickname hremote huser hid hname hd hguild,
      (findMember_eq_ok_none hd).mpr ⟨hfind, nobody⟩]
    rfl
  have hanswer : stores.user message.author.id = .ok (stores.identities.user? message.author.id) :=
    Stores.ask_eq_ok.mpr ⟨hsender, rfl⟩
  rw [resolve, hanswer, htarget]
  rfl

/-- Who is named so is found, unless somebody was added before who is, too. -/
theorem findMember?_of_mem {member : PlatformUser} (hmember : member ∈ d.membersOf guild)
    (hnamed : Directory.isNamed name member = true) :
    ∃ before found after, d.membersOf guild = before ++ found :: after ∧ d.findMember? guild name = some found ∧
      Directory.isNamed name found = true ∧ member ∈ found :: after := by
  obtain ⟨found, hfound⟩ := Option.isSome_iff_exists.mp (List.find?_isSome.mpr ⟨member, hmember, hnamed⟩)
  obtain ⟨hname, before, after, hmembers, hbefore⟩ := List.find?_eq_some_iff_append.mp hfound
  refine ⟨before, found, after, hmembers, hfound, hname, ?_⟩
  rw [hmembers] at hmember
  refine (List.mem_append.mp hmember).resolve_left fun hearlier => ?_
  have := hbefore member hearlier
  rw [hnamed] at this
  cases this

/-- Whoever has a name is named like what is alike to it. -/
theorem isNamed_of_alike {member : PlatformUser} (hn : member.username = n ∨ member.displayName = some n)
    (h : alike n name = true) : Directory.isNamed name member = true := by
  rw [Directory.isNamed, Bool.or_eq_true]
  rcases hn with hn | hn
  · exact .inl (hn ▸ h)
  · exact .inr (by rw [hn]; exact h)

theorem isNamed_congr {other : String} (h : alike name other = true) : Directory.isNamed name = Directory.isNamed other := by
  have hsame : ∀ s, alike s name = alike s other := congrFun (alike_congr h)
  funext u
  rw [Directory.isNamed, Directory.isNamed, hsame]
  cases u.displayName with
  | none => rfl
  | some s => exact congrArg _ (hsame s)

/-- The word `u:` and a name fails to find a member only where nobody in the server is named
    like the lowercase of the name, and there it does, unless a store fails or a mention that
    is not a standard one reads the word. Members whose name changes in ASCII letters alone
    when it is lowercased can be mentioned by it: they are found, or somebody who was added
    before and has the same name up to case. -/
theorem resolve_nickname (r : Resolver) (stores : Stores) (options : ResolverOptions) (schema : Schema) (now : Instant)
    (message : InboundMessage) (d : Directory) (guild n : String) (standard : MentionSpec.standard ⊆ schema.mentions)
    (distinct : schema.slotNames.Nodup) (reads : options.ReadsStandard) (hd : stores.directory = some d)
    (hguild : message.guildId = some guild) (word : IsWord n) :
    let result := r.resolve stores (schema.parseText now ("u:" ++ n)) message options
    (∀ what, result = .error (.notFound what) →
      what = "A member named `" ++ lower n ++ "`" ∧ ∀ u ∈ d.membersOf guild, Directory.isNamed (lower n) u = false) ∧
    ((∀ slot ∈ schema.mentions, slot ∉ MentionSpec.standard → slot.2.read ("u:" ++ n) = none) →
      stores.outages .user = none → stores.outages .findMember = none →
      (∀ u ∈ d.membersOf guild, Directory.isNamed (lower n) u = false) →
        result = .error (.notFound ("A member named `" ++ lower n ++ "`"))) ∧
    ∀ member ∈ d.membersOf guild, (member.username = n ∨ member.displayName = some n) → alike n (lower n) = true →
      (∀ what, result ≠ .error (.notFound what)) ∧
      ∃ before found after, d.membersOf guild = before ++ found :: after ∧ d.findMember? guild (lower n) = some found ∧
        Directory.isNamed n found = true ∧ member ∈ found :: after := by
  intro result
  have hnotFound : ∀ what, result = .error (.notFound what) →
      what = "A member named `" ++ lower n ++ "`" ∧ ∀ u ∈ d.membersOf guild, Directory.isNamed (lower n) u = false := by
    intro what hresult
    obtain ⟨name, guild', hname, hguild', hmember, rfl⟩ := resolve_eq_notFound hresult
    obtain ⟨-, -, -, hnickname⟩ := read_nickname now standard distinct reads word
    obtain rfl := hnickname name hname
    cases hguild.symm.trans hguild'
    exact ⟨rfl, ((findMember_eq_ok_none hd).mp hmember).2⟩
  refine ⟨hnotFound, fun only hsender hfind nobody =>
    resolve_notFound standard distinct reads word only hd hguild hsender hfind nobody, ?_⟩
  intro member hmember hn halike
  have hnamed : Directory.isNamed (lower n) member = true := isNamed_of_alike hn halike
  obtain ⟨before, found, after, hmembers, hfound, hname, hmem⟩ := findMember?_of_mem hmember hnamed
  refine ⟨fun what hresult => ?_, before, found, after, hmembers, hfound, ?_, hmem⟩
  · rw [(hnotFound what hresult).2 member hmember] at hnamed
    cases hnamed
  · rwa [isNamed_congr halike]

end Resolver

/-! ### Names in other letters -/

namespace Displayed

def schema : Schema := ⟨[], MentionSpec.standard, []⟩

/-- One name has ASCII letters only. -/
def directory : Directory :=
  (Directory.empty.addMember "g" ⟨"2", "École", none, false⟩).addMember "g" ⟨"3", "anna", some "ANNA", false⟩

def stores : Stores := { Stores.empty with directory := some directory }

def message : InboundMessage := ⟨"m", "!s u:École", ⟨"1", "joe", none, false⟩, some "g", "c", [], none, []⟩

theorem reads : ResolverOptions.standard.ReadsStandard := ⟨rfl, rfl, rfl, rfl⟩

end Displayed

open Resolver Displayed in
theorem Resolver.resolve_nickname_anna : schema.slotNames.Nodup ∧ IsWord "ANNA" ∧ alike "ANNA" (lower "ANNA") = true ∧
    (∀ what, resolve ⟨"!", "login", []⟩ stores (schema.parseText 0 "u:ANNA") message .standard ≠ .error (.notFound what)) ∧
    directory.findMember? "g" (lower "ANNA") = some ⟨"3", "anna", some "ANNA", false⟩ := by
  have hnames : schema.slotNames.Nodup := by decide
  have hword : IsWord "ANNA" := isWord_of_any (by decide) (by decide)
  have halike : alike "ANNA" (lower "ANNA") = true := by decide
  obtain ⟨-, -, hfound⟩ := resolve_nickname ⟨"!", "login", []⟩ stores .standard schema 0 message directory "g" "ANNA"
    (List.Subset.refl _) hnames reads rfl rfl hword
  obtain ⟨hresult, -⟩ := hfound ⟨"3", "anna", some "ANNA", false⟩ (by decide) (.inr rfl) halike
  exact ⟨hnames, hword, halike, hresult, by decide⟩

open Resolver Displayed in
/-- A member who is named `École` cannot be mentioned so. -/
theorem Resolver.not_resolve_nickname : ¬ ∀ (r : Resolver) (stores : Stores) (options : ResolverOptions) (schema : Schema)
    (now : Instant) (message : InboundMessage) (d : Directory) (guild n : String) (member : PlatformUser),
      MentionSpec.standard ⊆ schema.mentions → schema.slotNames.Nodup → options.ReadsStandard →
      stores.directory = some d → message.guildId = some guild → IsWord n → member ∈ d.membersOf guild →
      (member.username = n ∨ member.displayName = some n) →
        ∀ what, r.resolve stores (schema.parseText now ("u:" ++ n)) message options ≠ .error (.notFound what) := by
  intro h
  have hnames : schema.slotNames.Nodup := by decide
  have hword : IsWord "École" := isWord_of_any (by decide) (by decide)
  have honly : ∀ slot ∈ schema.mentions, slot ∉ MentionSpec.standard → slot.2.read ("u:" ++ "École") = none :=
    fun slot hslot hnot => absurd hslot hnot
  exact h ⟨"!", "login", []⟩ stores .standard schema 0 message directory "g" "École" ⟨"2", "École", none, false⟩
    (List.Subset.refl _) hnames reads rfl rfl hword (by decide) (.inl rfl) _
    (resolve_notFound (List.Subset.refl _) hnames reads hword honly rfl rfl rfl rfl (by decide))

end ChatBot
