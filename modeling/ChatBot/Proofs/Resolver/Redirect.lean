/-
  ChatBot.Proofs.Resolver.Redirect — a reply that mentions its bot and nobody else.

  A reply to a recognised bot mentions that bot, and another user of the message is meant. When
  there is none, the mention is discarded (`redirectReply_eq_none`). An account in the text is
  then asked for as if nothing had been mentioned, but an id or a nickname is passed over: they
  are asked for only where the user argument holds nothing.

  Proved: `resolve_discarded`, for every store, outages included. A discarded mention counts as
  absent exactly where no id and no nickname is passed over (`PassedOver`), and else as if these
  were absent, too.
  - `not_resolve_discarded`: `<@7> id:2` in reply to the bot 7 is about the sender, not about 2.
-/
import ChatBot.Proofs.Resolver.Precedence

namespace ChatBot

open CommandError

namespace Resolver

/-- What is read where only accounts are asked for, by a mention or in the text. -/
def accountsOf (heard : Source → Option String) : Source → Option String
  | .remoteMention => heard .remoteMention
  | .freeText => heard .freeText
  | _ => none

/-- An id or a nickname that can be looked up is read, and no account is mentioned. -/
def PassedOver (directory : Option Directory) (message : InboundMessage) (heard : Source → Option String) : Prop :=
  heard .remoteMention = none ∧ ((heard .idMention).isSome = true ∨
    (heard .nickname).isSome = true ∧ directory.isSome = true ∧ message.guildId.isSome = true)

variable {r : Resolver} {stores : Stores} {message : InboundMessage} {options : ResolverOptions} {args : ParsedArgs}
  {heard : Source → Option String} {id : String} {bot : PlatformUser}

/-! ## The mention that is discarded -/

theorem redirectReply_eq_none : r.redirectReply message id = none ↔
    ∃ bot, message.replyTo = some bot ∧ bot.id = id ∧ r.isRecognisedBot bot = true ∧
      ∀ u ∈ message.mentions, u.id = id := by
  unfold redirectReply
  cases message.replyTo with
  | none => simp
  | some author =>
    by_cases hmeant : author.id = id ∧ r.isRecognisedBot author = true
    · obtain ⟨rfl, hbot⟩ := hmeant
      simp [hbot]
    · have hkept : (author.id != id || !r.isRecognisedBot author) = true := by
        simp only [Bool.or_eq_true, bne_iff_ne, Bool.not_eq_true']
        by_cases hid : author.id = id
        · exact .inr (Bool.eq_false_iff.mpr fun h => hmeant ⟨hid, h⟩)
        · exact .inl hid
      simp only [hkept, if_true]
      refine iff_of_false (fun h => by cases h) ?_
      rintro ⟨bot, hbot, hid, hrecognised, -⟩
      cases hbot
      exact hmeant ⟨hid, hrecognised⟩

/-- Where no user is named, only accounts count. -/
theorem targetFrom_of_noId (h : r.idFrom stores message heard = .ok none) :
    r.targetFrom stores message options heard = r.targetFrom stores message options (accountsOf heard) := by
  rw [targetFrom, h]
  rfl

/-- A discarded mention is followed by no look-up of an id or a nickname. -/
theorem targetFrom_discarded (named : heard .userArgument = some id) (discarded : r.redirectReply message id = none) :
    r.targetFrom stores message options heard = r.targetFrom stores message options (accountsOf heard) := by
  refine targetFrom_of_noId ?_
  rw [idFrom, named]
  exact congrArg Except.ok discarded

/-- Without a mention an id and a nickname are looked up, and then an account in the text. -/
theorem targetFrom_of_not_passedOver (unnamed : heard .userArgument = none)
    (h : ¬ PassedOver stores.directory message heard) :
    r.targetFrom stores message options heard = r.targetFrom stores message options (accountsOf heard) := by
  cases hremote : heard .remoteMention with
  | some name =>
    have haccounts : accountsOf heard .remoteMention = some name := hremote
    rw [targetFrom_remoteMention hremote, targetFrom_remoteMention haccounts]
  | none =>
    refine targetFrom_of_noId ?_
    rw [idFrom, unnamed]
    cases hidMention : heard .idMention with
    | some id => exact absurd ⟨hremote, .inl (by rw [hidMention]; rfl)⟩ h
    | none =>
    cases hnickname : heard .nickname with
    | none => rfl
    | some nickname =>
    cases hdirectory : stores.directory with
    | none => rfl
    | some d =>
    cases hguild : message.guildId with
    | none => rfl
    | some guild =>
      refine absurd ⟨hremote, .inr ⟨?_, ?_, ?_⟩⟩ h
      · rw [hnickname]
        rfl
      · rw [hdirectory]
        rfl
      · rw [hguild]
        rfl

/-! ## Without the user argument -/

theorem get?_of_read (named : Source.read options args .userArgument = some id) :
    ∃ target : MentionTarget, target.platformId? = some id ∧ args.get? options.userArgument = some (.mention target) := by
  obtain ⟨target, hmention, hid⟩ := Option.bind_eq_some_iff.mp named
  refine ⟨target, hid, ?_⟩
  unfold ParsedArgs.mention? at hmention
  split at hmention
  · rename_i t hget
    rw [hget, Option.some.inj hmention]
  · cases hmention

theorem mention?_erase (args : ParsedArgs) (name key : String) :
    ParsedArgs.mention? (args.erase key) name = if name = key then none else args.mention? name := by
  rw [ParsedArgs.mention?, ParsedArgs.mention?, Dict.get?_erase]
  by_cases h : name = key
  · rw [if_pos h, if_pos h]
  · rw [if_neg h, if_neg h]

theorem read_erase_userArgument (options : ResolverOptions) (args : ParsedArgs) :
    Source.read options (args.erase options.userArgument) .userArgument = none := by
  simp only [Source.read, mention?_erase, if_true]
  rfl

/-- Where the user argument holds a user, it holds no account. -/
theorem accountsOf_read_erase (named : Source.read options args .userArgument = some id) :
    accountsOf (Source.read options (args.erase options.userArgument)) = accountsOf (Source.read options args) := by
  obtain ⟨target, hid, hget⟩ := get?_of_read named
  funext source
  cases source with
  | remoteMention =>
    simp only [accountsOf, Source.read, mention?_erase]
    by_cases hname : options.remoteMentionArgument = options.userArgument
    · rw [if_pos hname, hname, ParsedArgs.mention?, hget]
      cases target with
      | remoteUsername name => cases hid
      | _ => rfl
    · rw [if_neg hname]
  | freeText =>
    simp only [accountsOf, Source.read, ParsedArgs.text?, Dict.get?_erase]
    by_cases hname : options.inputArgument = options.userArgument
    · rw [if_pos hname, hname, hget]
    · rw [if_neg hname]
  | _ => rfl

/-! ## Whom the arguments refer to -/

theorem reference_of_remoteMention {name : String} (h : Source.read options args .remoteMention = some name) :
    r.reference stores args message options = .account name := by
  unfold Source.read at h
  rw [reference]
  cases hmention : args.mention? options.remoteMentionArgument with
  | none => simp [hmention] at h
  | some target => cases target with
    | remoteUsername name' => simpa [hmention] using h
    | _ => simp [hmention] at h

theorem reference_of_noRemoteMention (h : Source.read options args .remoteMention = none) :
    r.reference stores args message options = r.plainReference stores args message options := by
  unfold Source.read at h
  rw [reference]
  split
  · rename_i name hmention
    rw [hmention] at h
    cases h
  · rfl

/-- The reference is to whom the source refers that decides. -/
theorem reference_eq {source : Source} {ref : Reference} (h : Decides r stores message (Source.read options args) source ref) :
    r.reference stores args message options = ref := by
  cases h with
  | remoteMention hremote => exact reference_of_remoteMention hremote
  | userArgument hremote huser hkept =>
    simp only [Source.read] at huser
    rw [reference_of_noRemoteMention hremote, plainReference, namedId, huser]
    simp only [hkept]
  | idMention hremote huser hmention =>
    simp only [Source.read] at huser hmention
    rw [reference_of_noRemoteMention hremote, plainReference, namedId, huser, hmention]
  | @nickname name guild d hremote huser hmention hname hd hguild =>
    have hnickname : args.mention? options.platformUsernameArgument = some (.platformUsername name) := by
      simp only [Source.read] at hname
      split at hname
      · rename_i hread
        rw [hread, Option.some.inj hname]
      · cases hname
    simp only [Source.read] at huser hmention
    rw [reference_of_noRemoteMention hremote, plainReference, namedId, huser, hmention, hnickname, hd, hguild, memberReference]
    dsimp only
    cases d.findMember? guild name <;> rfl

/-- Whom the text refers to. -/
def textReference (heard : Source → Option String) : Reference :=
  match heard .freeText with
  | some name => .account name
  | none => .nobody

/-- After a discarded mention only the text is asked for. -/
theorem reference_discarded (hremote : Source.read options args .remoteMention = none)
    (named : Source.read options args .userArgument = some id) (discarded : r.redirectReply message id = none) :
    r.reference stores args message options = textReference (Source.read options args) := by
  have hid : r.namedId stores args message options = .ok none := by
    simp only [Source.read] at named
    rw [namedId, named]
    exact congrArg Except.ok discarded
  rw [reference_of_noRemoteMention hremote, plainReference, hid]
  rfl

/-- What is passed over refers to a user, or is a nickname that nobody has. -/
theorem decides_of_passedOver {directory : Option Directory} (unnamed : heard .userArgument = none)
    (h : PassedOver directory message heard) :
    ∃ ref, ((∃ id, ref = Reference.user id) ∨ ∃ nickname, ref = .stranger nickname) ∧
      ∀ stores : Stores, stores.directory = directory → ∃ source, Decides r stores message heard source ref := by
  obtain ⟨hremote, h⟩ := h
  cases hmention : heard .idMention with
  | some id => exact ⟨.user id, .inl ⟨id, rfl⟩, fun stores _ => ⟨_, .idMention hremote unnamed hmention⟩⟩
  | none =>
    rw [hmention] at h
    obtain ⟨hname, hdirectory, hguild⟩ := h.resolve_left Bool.false_ne_true
    obtain ⟨nickname, hname⟩ := Option.isSome_iff_exists.mp hname
    obtain ⟨d, rfl⟩ := Option.isSome_iff_exists.mp hdirectory
    obtain ⟨guild, hguild⟩ := Option.isSome_iff_exists.mp hguild
    refine ⟨memberReference d guild nickname, ?_, fun stores hd => ?_⟩
    · unfold memberReference
      cases d.findMember? guild nickname with
      | some member => exact .inl ⟨member.id, rfl⟩
      | none => exact .inr ⟨nickname, rfl⟩
    · exact ⟨_, .nickname hremote unnamed hmention hname hd hguild⟩

/-! ## Stores that tell the two apart -/

/-- A user who has all that can be required. -/
def complete (id name : String) : LocalIdentity := ⟨id, some name, some "key", some 0⟩

/-- Stores that answer, with these identities. -/
def knowing (directory : Option Directory) (identities : IdentityStore) : Stores :=
  { Stores.empty with identities, directory }

theorem user?_insert (s : IdentityStore) (i : LocalIdentity) (id : String) :
    (s.insert i).user? id = if id = i.platformId then some i else s.user? id :=
  Dict.get?_insert s.users i.platformId id i

theorem ne_some_append (text : Option String) : text ≠ some (text.getD "" ++ "x") := by
  intro h
  cases text with
  | none => cases h
  | some t =>
    have hlength := congrArg String.length (Option.some.inj h)
    rw [Option.getD_some, String.length_append] at hlength
    exact absurd hlength (by simp)

theorem resolve_ok_of_reference {ref : Reference} {sender : Option LocalIdentity} {found : ResolvedMentions}
    (answers : stores.Answers) (hsender : stores.identities.user? message.author.id = sender)
    (href : r.reference stores args message options = ref) : r.resolve stores args message options = .ok found ↔
      ref.Usable stores options ∧ ref.Satisfied stores options sender ∧
        found = describe stores message options sender (ref.known stores options) := by
  subst hsender href
  exact resolve_eq_ok_iff answers

/-- A user is taken neither for nobody nor for an account of another name. -/
theorem describe_ne_of_user {sender target : LocalIdentity} {name : String} (htarget : stores.identities.user? id = some target)
    (hname : target.remoteUsername = some name) (hother : heard .freeText ≠ some name) :
    describe stores message options (some sender) ((Reference.user id).known stores options) ≠
      describe stores message options (some sender) ((textReference heard).known stores options) := by
  intro hsame
  have hmentioned := congrArg ResolvedMentions.mentioned hsame
  have husername := congrArg ResolvedMentions.username hsame
  unfold textReference at hmentioned husername
  cases htext : heard .freeText with
  | none =>
    rw [htext] at hmentioned
    cases hmentioned
  | some text =>
    rw [htext] at husername hother
    simp only [describe, Reference.known, htarget, Option.bind_some, hname, Option.some_or] at husername
    exact hother husername.symm

/-- With such a sender only the target may miss something. -/
theorem satisfied_complete {ref : Reference} {account : String}
    (target : ref ≠ .nobody → ∃ i, ref.identity? stores = some i ∧ i.isIndexed = true) :
    ref.Satisfied stores options (some (complete id account)) where
  linked _ := ⟨account, rfl⟩
  username _ := by
    cases ref.username? stores with
    | none => exact ⟨account, rfl⟩
    | some name => exact ⟨name, rfl⟩
  authenticated _ := ⟨"key", rfl⟩
  senderIndexed _ := ⟨_, rfl, rfl⟩
  targetIndexed _ := target

variable {rest : ParsedArgs}

section

variable {account name : String} (answers : stores.Answers)
  (hsender : stores.identities.user? message.author.id = some (complete message.author.id account))
  (htext : r.reference stores args message options = textReference heard)
include answers hsender htext

/-- A user who has what is required is found, and the text is about somebody else. -/
theorem resolve_ne_of_user (href : r.reference stores rest message options = .user id)
    (htarget : stores.identities.user? id = some (complete id name)) (hother : heard .freeText ≠ some name) :
    r.resolve stores args message options ≠ r.resolve stores rest message options := by
  have husable : (Reference.user id).Usable stores options := by
    rw [Reference.usable_user, Reference.username?, htarget]
    rfl
  have hsatisfied : (Reference.user id).Satisfied stores options (some (complete message.author.id account)) :=
    satisfied_complete fun _ => ⟨_, htarget, rfl⟩
  intro hsame
  rw [(resolve_ok_of_reference answers hsender href).mpr ⟨husable, hsatisfied, rfl⟩] at hsame
  obtain ⟨-, -, hfound⟩ := (resolve_ok_of_reference answers hsender htext).mp hsame
  exact describe_ne_of_user htarget rfl hother hfound

/-- A nickname that nobody has is an error, and the text is not. -/
theorem resolve_ne_of_stranger {nickname : String} (href : r.reference stores rest message options = .stranger nickname)
    (howner : ∀ text, heard .freeText = some text →
      ∃ i, stores.identities.byUsername? text = some i ∧ i.isIndexed = true) :
    r.resolve stores args message options ≠ r.resolve stores rest message options := by
  have hok : ∃ found, r.resolve stores args message options = .ok found := by
    refine ⟨_, (resolve_ok_of_reference answers hsender htext).mpr ⟨?_, satisfied_complete fun hne => ?_, rfl⟩⟩
    · unfold textReference
      split
      · rename_i text hread
        obtain ⟨i, hi, -⟩ := howner text hread
        rw [Reference.usable_account, Reference.owner?, hi]
        cases options.reverseLookupRequired <;> rfl
      · exact Reference.usable_nobody
    · unfold textReference at hne ⊢
      split at hne
      · rename_i text hread
        exact howner text hread
      · exact absurd rfl hne
  obtain ⟨found, hok⟩ := hok
  intro hsame
  rw [hok] at hsame
  obtain ⟨husable, -⟩ := (resolve_ok_of_reference answers hsender href).mp hsame.symm
  exact Reference.not_usable_stranger husable

end

/-- Some stores with the directory tell apart what the text refers to and what was passed over. -/
theorem exists_resolve_ne {directory : Option Directory} {ref : Reference}
    (hnamed : (∃ id, ref = .user id) ∨ ∃ nickname, ref = .stranger nickname)
    (href : ∀ stores : Stores, stores.directory = directory → r.reference stores rest message options = ref)
    (htext : ∀ stores : Stores, r.reference stores args message options = textReference heard) :
    ∃ stores : Stores, stores.directory = directory ∧
      r.resolve stores args message options ≠ r.resolve stores rest message options := by
  rcases hnamed with ⟨id, rfl⟩ | ⟨nickname, rfl⟩
  · let name := (heard .freeText).getD "" ++ "x"
    let identities := (IdentityStore.empty.insert (complete message.author.id "sender")).insert (complete id name)
    have hother : heard .freeText ≠ some name := ne_some_append _
    have htarget : identities.user? id = some (complete id name) := (user?_insert _ _ id).trans (if_pos rfl)
    obtain ⟨account, hsender⟩ : ∃ account,
        identities.user? message.author.id = some (complete message.author.id account) := by
      by_cases hid : message.author.id = id
      · exact ⟨name, by rw [hid, htarget]⟩
      · exact ⟨"sender", (user?_insert _ _ _).trans ((if_neg hid).trans ((user?_insert _ _ _).trans (if_pos rfl)))⟩
    exact ⟨knowing directory identities, rfl,
      resolve_ne_of_user ⟨rfl, rfl, rfl, rfl⟩ hsender (htext _) (href _ rfl) htarget hother⟩
  · let name := (heard .freeText).getD "x"
    let identities := IdentityStore.empty.insert (complete message.author.id name)
    have hsender : identities.user? message.author.id = some (complete message.author.id name) :=
      (user?_insert _ _ _).trans (if_pos rfl)
    have howner (text : String) (hread : heard .freeText = some text) :
        ∃ i, identities.byUsername? text = some i ∧ i.isIndexed = true := by
      have hname : name = text := by
        rw [show name = (heard .freeText).getD "x" from rfl, hread]
        rfl
      refine ⟨complete message.author.id name, List.find?_cons_of_pos ?_, rfl⟩
      rw [IdentityStore.hasUsername]
      exact hname ▸ Text.alike_refl name
    exact ⟨knowing directory identities, rfl,
      resolve_ne_of_stranger ⟨rfl, rfl, rfl, rfl⟩ hsender (htext _) (href _ rfl) howner⟩

/-- A mention that a reply discards counts as absent, whatever the stores answer, exactly where
    no id and no nickname beside it is passed over. In any case the resolution is that of the
    accounts among the arguments: the one that is mentioned, or else the one in the text. -/
theorem resolve_discarded (r : Resolver) (options : ResolverOptions) (args : ParsedArgs) (message : InboundMessage)
    (bot : PlatformUser) (replies : message.replyTo = some bot) (recognised : r.isRecognisedBot bot = true)
    (named : Source.read options args .userArgument = some bot.id) (nobodyElse : ∀ u ∈ message.mentions, u.id = bot.id) :
    let rest := args.erase options.userArgument
    (∀ directory, (∀ stores : Stores, stores.directory = directory →
        r.resolve stores args message options = r.resolve stores rest message options) ↔
          ¬ PassedOver directory message (Source.read options rest)) ∧
      ∀ (stores : Stores) (accounts : ParsedArgs), Source.read options accounts = accountsOf (Source.read options args) →
        r.resolve stores args message options = r.resolve stores accounts message options := by
  intro rest
  have discarded : r.redirectReply message bot.id = none :=
    redirectReply_eq_none.mpr ⟨bot, replies, rfl, recognised, nobodyElse⟩
  have hmentioned (stores : Stores) : r.mentioned stores args message options =
      r.targetFrom stores message options (accountsOf (Source.read options args)) :=
    mentioned_eq.trans (targetFrom_discarded named discarded)
  have hunnamed : Source.read options rest .userArgument = none := read_erase_userArgument options args
  have haccounts : accountsOf (Source.read options rest) = accountsOf (Source.read options args) := accountsOf_read_erase named
  refine ⟨fun directory => ⟨fun hsame hpassed => ?_, ?_⟩, fun stores accounts h => ?_⟩
  · obtain ⟨ref, hnamed, hdecides⟩ := decides_of_passedOver (r := r) hunnamed hpassed
    have hremote : Source.read options args .remoteMention = none := (congrFun haccounts .remoteMention).symm.trans hpassed.1
    obtain ⟨stores, hdirectory, hne⟩ := exists_resolve_ne hnamed
      (fun stores hd => reference_eq (hdecides stores hd).choose_spec) (fun _ => reference_discarded hremote named discarded)
    exact hne (hsame stores hdirectory)
  · rintro hpassed stores rfl
    refine resolve_congr rfl ?_
    rw [hmentioned, mentioned_eq, targetFrom_of_not_passedOver hunnamed hpassed, haccounts]
  · refine resolve_congr rfl ?_
    rw [hmentioned, mentioned_eq, h]

end Resolver

/-! ### In reply to the bot -/

namespace Scrobbled

open Resolver

def bot : PlatformUser := ⟨"7", "scrobblebot", none, true⟩

def stores : Stores := { Stores.empty with
  identities := (IdentityStore.empty.insert ⟨"1", some "joe", none, none⟩).insert ⟨"2", some "anna", none, none⟩ }

def message : InboundMessage := ⟨"m", "!s", ⟨"1", "u1", none, false⟩, some "g1", "c1", [bot], some bot, []⟩

/-- The mention of the bot, and an account in the text. -/
def botAndText : ParsedArgs := (Dict.empty.insert "user" (.mention (.platform "7"))).insert "username" (.text "rj")

/-- The mention of the bot, and an id. -/
def botAndId : ParsedArgs := (Dict.empty.insert "user" (.mention (.platform "7"))).insert "userID" (.mention (.platformId "2"))

end Scrobbled

open Resolver Scrobbled in
/-- The account in the text is found as without the mention. -/
theorem Resolver.resolve_discarded_text : message.replyTo = some bot ∧ isRecognisedBot ⟨"!", "login", []⟩ bot = true ∧
    Source.read .standard botAndText .userArgument = some bot.id ∧ (∀ u ∈ message.mentions, u.id = bot.id) ∧
    ∃ found, resolve ⟨"!", "login", []⟩ stores botAndText message .standard = .ok found ∧ found.username = some "rj" := by
  have halone : ∀ u ∈ message.mentions, u.id = bot.id := by decide
  obtain ⟨hsame, -⟩ := resolve_discarded ⟨"!", "login", []⟩ .standard botAndText message bot rfl rfl rfl halone
  have hpassed : ¬ PassedOver none message (Source.read .standard (botAndText.erase "user")) := by
    rintro ⟨-, hid | ⟨-, hdirectory, -⟩⟩
    · cases hid
    · cases hdirectory
  refine ⟨rfl, rfl, rfl, halone, ?_⟩
  rw [(hsame none).mpr hpassed stores rfl]
  exact ⟨_, rfl, rfl⟩

open Resolver Scrobbled in
/-- The id is not found: with the mention of the bot beside it, the sender is meant. -/
theorem Resolver.not_resolve_discarded : ¬ ∀ (r : Resolver) (stores : Stores) (options : ResolverOptions) (args : ParsedArgs)
    (message : InboundMessage) (bot : PlatformUser), message.replyTo = some bot → r.isRecognisedBot bot = true →
      Source.read options args .userArgument = some bot.id → (∀ u ∈ message.mentions, u.id = bot.id) →
        r.resolve stores args message options = r.resolve stores (args.erase options.userArgument) message options := by
  intro h
  have hsame := h ⟨"!", "login", []⟩ stores .standard botAndId message bot rfl rfl rfl (by decide)
  have hsender : (resolve ⟨"!", "login", []⟩ stores botAndId message .standard).toOption.bind (·.username) =
      some "joe" := rfl
  have hanna : (resolve ⟨"!", "login", []⟩ stores (botAndId.erase "user") message .standard).toOption.bind (·.username) =
      some "anna" := rfl
  rw [hsame, show ResolverOptions.standard.userArgument = "user" from rfl, hanna] at hsender
  exact absurd hsender (by decide)

end ChatBot
