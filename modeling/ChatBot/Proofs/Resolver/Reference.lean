/-
  ChatBot.Proofs.Resolver.Reference — whom the arguments refer to, and when that can be
  resolved.

  Whom the arguments refer to is read off them before anything is required: by the first
  source that was given, a user of the platform, an account, or nobody (`reference`). A
  nickname may be that of nobody in the server. What the options require of sender and
  target is said beside it (`Usable`, `Satisfied`), and a resolution succeeds exactly when
  all of it holds (`resolve_ok_iff`). Stores and directory are taken to answer.
-/
import ChatBot.Proofs.Resolver.Target

namespace ChatBot

open CommandError

/-- The identities and the directory answer whatever they are asked. -/
structure Stores.Answers (s : Stores) : Prop where
  user : s.outages .user = none
  userByUsername : s.outages .userByUsername = none
  fetchUser : s.outages .fetchUser = none
  findMember : s.outages .findMember = none

namespace Stores

variable {s : Stores} (h : s.Answers)
include h

theorem Answers.user_eq (id : String) : s.user id = .ok (s.identities.user? id) := ask_eq_ok.mpr ⟨h.user, rfl⟩

theorem Answers.userByUsername_eq (name : String) : s.userByUsername name = .ok (s.identities.byUsername? name) :=
  ask_eq_ok.mpr ⟨h.userByUsername, rfl⟩

theorem Answers.fetchUser_eq (id : String) : s.fetchUser id = .ok (s.directory.bind (·.user? id)) := by
  unfold Stores.fetchUser
  cases s.directory with
  | none => rfl
  | some d => exact ask_eq_ok.mpr ⟨h.fetchUser, rfl⟩

theorem Answers.findMember_eq {d : Directory} (hd : s.directory = some d) (guild name : String) :
    s.findMember guild name = .ok (d.findMember? guild name) := by
  rw [Stores.findMember, hd]
  exact ask_eq_ok.mpr ⟨h.findMember, rfl⟩

end Stores

namespace Resolver

/-- Whom the arguments refer to. -/
inductive Reference where
  | nobody
  /-- A user of the platform, by id. -/
  | user (id : String)
  /-- An account on the remote service. -/
  | account (name : String)
  /-- A nickname that no member of the server has. -/
  | stranger (nickname : String)

/-- The platform id that the arguments name, if any; or the nickname that no member has. A
    nickname counts only where there is a server and a directory to look it up. -/
def namedId (r : Resolver) (stores : Stores) (args : ParsedArgs) (message : InboundMessage)
    (options : ResolverOptions) : Except String (Option String) :=
  match (args.mention? options.userArgument).bind (·.platformId?) with
  | some id => .ok (r.redirectReply message id)
  | none => match (args.mention? options.idMentionArgument).bind (·.platformId?) with
    | some id => .ok (some id)
    | none => match args.mention? options.platformUsernameArgument, stores.directory, message.guildId with
      | some (.platformUsername nickname), some d, some guild => match d.findMember? guild nickname with
        | some member => .ok (some member.id)
        | none => .error nickname
      | _, _, _ => .ok none

/-- Whom the arguments refer to where they mention no account: by an id or a nickname, else
    by an account in the text. -/
def plainReference (r : Resolver) (stores : Stores) (args : ParsedArgs) (message : InboundMessage)
    (options : ResolverOptions) : Reference :=
  match r.namedId stores args message options with
  | .error nickname => .stranger nickname
  | .ok (some id) => .user id
  | .ok none => match args.text? options.inputArgument with
    | some name => .account name
    | none => .nobody

/-- Whom the arguments refer to, by the first source that was given. -/
def reference (r : Resolver) (stores : Stores) (args : ParsedArgs) (message : InboundMessage)
    (options : ResolverOptions) : Reference :=
  match args.mention? options.remoteMentionArgument with
  | some (.remoteUsername name) => .account name
  | _ => r.plainReference stores args message options

namespace Reference

variable (stores : Stores) (options : ResolverOptions)

/-- The identity that the reference is to. -/
def identity? : Reference → Option LocalIdentity
  | .user id => stores.identities.user? id
  | .account name => stores.identities.byUsername? name
  | _ => none

/-- The account that the reference is to. -/
def username? : Reference → Option String
  | .user id => (stores.identities.user? id).bind (·.remoteUsername)
  | .account name => some name
  | _ => none

/-- The owner of an account, who is looked up only where a requirement asks for one. -/
def owner? (name : String) : Option LocalIdentity :=
  if options.reverseLookupRequired || options.requireIndexed then stores.identities.byUsername? name else none

/-- What comes of the reference. -/
def known : Reference → Mentioned
  | .user id => ⟨(stores.identities.user? id).bind (·.remoteUsername), stores.identities.user? id, some id, true⟩
  | .account name => ⟨some name, owner? stores options name, (owner? stores options name).map (·.platformId), true⟩
  | _ => .nobody

/-- The reference is to somebody, as far as the options ask for it. -/
structure Usable (ref : Reference) : Prop where
  found : ∀ nickname, ref ≠ .stranger nickname
  linked : ∀ id, ref = .user id → options.usernameRequired = true → ∃ u, ref.username? stores = some u
  owned : ∀ name, ref = .account name → options.reverseLookupRequired = true →
    ∃ i ∈ stores.identities.users.values, IdentityStore.hasUsername name i = true

/-- What the options require of the sender, and of the target where somebody is referred to. -/
structure Satisfied (sender : Option LocalIdentity) (ref : Reference) : Prop where
  linked : options.senderRequired = true → ∃ u, sender.bind (·.remoteUsername) = some u
  username : options.usernameRequired = true →
    ∃ u, (ref.username? stores).or (sender.bind (·.remoteUsername)) = some u
  authenticated : options.authenticationRequired = true → ∃ key, sender.bind (·.sessionKey) = some key
  senderIndexed : options.requireIndexed = true → ∃ i, sender = some i ∧ i.isIndexed = true
  targetIndexed : options.requireIndexed = true → ref ≠ .nobody →
    ∃ i, ref.identity? stores = some i ∧ i.isIndexed = true

end Reference

variable {r : Resolver} {stores : Stores} {args : ParsedArgs} {message : InboundMessage} {options : ResolverOptions}

/-! ## The reference -/

theorem platformIdFrom_eq_ok (h : stores.Answers) {id : Option String} :
    r.platformIdFrom stores args message options = .ok id ↔ r.namedId stores args message options = .ok id := by
  unfold platformIdFrom namedId
  cases (args.mention? options.userArgument).bind (·.platformId?) with
  | some named => simp
  | none =>
  cases (args.mention? options.idMentionArgument).bind (·.platformId?) with
  | some named => simp
  | none =>
  cases args.mention? options.platformUsernameArgument with
  | none => simp
  | some mention =>
  cases mention with
  | platformUsername nickname =>
    cases hd : stores.directory with
    | none => simp
    | some d =>
    cases message.guildId with
    | none => simp
    | some guild =>
      simp only [h.findMember_eq hd, orFail]
      cases d.findMember? guild nickname <;> simp [bind, Except.bind]
  | _ => simp

/-! ## What can be used -/

theorem byUsername?_isSome {name : String} : (stores.identities.byUsername? name).isSome = true ↔
    ∃ i ∈ stores.identities.users.values, IdentityStore.hasUsername name i = true :=
  List.find?_isSome

namespace Reference

theorem known_username (ref : Reference) : (ref.known stores options).username = ref.username? stores := by
  cases ref <;> rfl

theorem usable_account {name : String} : (account name).Usable stores options ↔
    (options.reverseLookupRequired && (owner? stores options name).isNone) = false := by
  have howned : (account name).Usable stores options ↔ (options.reverseLookupRequired = true →
      (stores.identities.byUsername? name).isSome = true) := by
    rw [byUsername?_isSome]
    refine ⟨fun h => h.owned name rfl, fun h => ⟨by simp, by simp, ?_⟩⟩
    rintro _ ⟨⟩
    exact h
  rw [howned, owner?]
  cases options.reverseLookupRequired with
  | false => simp
  | true => cases stores.identities.byUsername? name <;> simp

theorem usable_user {id : String} : (user id).Usable stores options ↔
    (((user id).username? stores).isNone && options.usernameRequired) = false := by
  have hlinked : (user id).Usable stores options ↔
      (options.usernameRequired = true → ∃ u, (user id).username? stores = some u) := by
    refine ⟨fun h => h.linked id rfl, fun h => ⟨by simp, ?_, by simp⟩⟩
    rintro _ ⟨⟩
    exact h
  rw [hlinked]
  cases options.usernameRequired <;> cases (user id).username? stores <;> simp

theorem usable_nobody : nobody.Usable stores options := ⟨by simp, by simp, by simp⟩

theorem not_usable_stranger {nickname : String} : ¬ (stranger nickname).Usable stores options :=
  fun h => h.found nickname rfl

end Reference

theorem ite_error_eq_ok {ε α : Type} {b : Bool} {e : ε} {a t : α} :
    (if b then .error e else .ok t : Except ε α) = .ok a ↔ b = false ∧ a = t := by
  cases b <;> simp [eq_comm]

theorem ownerOf_eq (h : stores.Answers) (name : String) :
    ownerOf stores name options = .ok (Reference.owner? stores options name) := by
  unfold ownerOf Reference.owner?
  split
  · rw [h.userByUsername_eq, orFail]
  · rfl

theorem remoteTarget_eq_ok (h : stores.Answers) {name : String} {target : Mentioned} :
    r.remoteTarget stores name options = .ok target ↔
      (Reference.account name).Usable stores options ∧ target = (Reference.account name).known stores options := by
  rw [Reference.usable_account, remoteTarget, ownerOf_eq h]
  exact ite_error_eq_ok

theorem platformTarget_eq_ok (h : stores.Answers) {id : String} {target : Mentioned} :
    platformTarget stores id options = .ok target ↔
      (Reference.user id).Usable stores options ∧ target = (Reference.user id).known stores options := by
  rw [Reference.usable_user, platformTarget, h.user_eq]
  exact ite_error_eq_ok

/-- The target is found exactly when the reference can be used, and it is what is known of it. -/
theorem mentioned_eq_ok (h : stores.Answers) {target : Mentioned} :
    r.mentioned stores args message options = .ok target ↔
      (r.reference stores args message options).Usable stores options ∧
        target = (r.reference stores args message options).known stores options := by
  unfold mentioned
  split
  · rename_i name hremote
    have haccount : r.reference stores args message options = .account name := by rw [reference, hremote]
    rw [haccount]
    exact remoteTarget_eq_ok h
  rename_i hother
  have hplain : r.reference stores args message options = r.plainReference stores args message options := by
    unfold reference
    split
    · rename_i name hremote
      exact absurd hremote (hother name)
    · rfl
  rw [hplain, plainReference, bind_eq_ok]
  simp only [platformIdFrom_eq_ok h]
  cases r.namedId stores args message options with
  | error nickname => exact iff_of_false (by simp) fun h => Reference.not_usable_stranger h.1
  | ok id =>
    simp only [Except.ok.injEq, exists_eq_left']
    cases id with
    | some id => exact platformTarget_eq_ok h
    | none =>
      cases args.text? options.inputArgument with
      | some name => exact remoteTarget_eq_ok h
      | none =>
        dsimp only
        rw [Except.ok.injEq, eq_comm]
        exact (and_iff_right Reference.usable_nobody).symm

/-! ## What is required -/

theorem ite_some_eq_none {α : Type} {b : Bool} {a : α} {x : Option α} :
    (if b then some a else x) = none ↔ b = false ∧ x = none := by
  cases b <;> simp

theorem and_isNone_eq_false {α : Type} {b : Bool} {o : Option α} :
    (b && o.isNone) = false ↔ (b = true → ∃ a, o = some a) := by
  cases b <;> cases o <;> simp

theorem and_not_any_eq_false {α : Type} {b : Bool} {o : Option α} {f : α → Bool} :
    (b && !o.any f) = false ↔ (b = true → ∃ a, o = some a ∧ f a = true) := by
  cases b <;> cases o <;> simp

/-- No requirement is missed exactly when sender and target are as the options ask for. -/
theorem missing_eq_none {sender : Option LocalIdentity} {ref : Reference} (husable : ref.Usable stores options) :
    r.missing options sender (ref.known stores options) = none ↔ ref.Satisfied stores options sender := by
  have hindexed : ((options.requireIndexed && (ref.known stores options).referenced) &&
      !(ref.known stores options).identity.any (·.isIndexed)) = false ↔ (options.requireIndexed = true →
        ref ≠ .nobody → ∃ i, ref.identity? stores = some i ∧ i.isIndexed = true) := by
    rw [and_not_any_eq_false, Bool.and_eq_true, and_imp]
    refine imp_congr_right fun hrequired => ?_
    cases ref with
    | nobody => simp [Reference.known, Mentioned.nobody]
    | stranger nickname => exact absurd husable Reference.not_usable_stranger
    | user id => simp [Reference.known, Reference.identity?]
    | account name => simp [Reference.known, Reference.identity?, Reference.owner?, hrequired]
  simp only [missing, ite_some_eq_none, and_isNone_eq_false, ref.known_username, hindexed, and_not_any_eq_false,
    and_true]
  constructor
  · rintro ⟨h1, h2, h3, h4, h5⟩
    exact ⟨h1, h2, h3, h4, h5⟩
  · rintro ⟨h1, h2, h3, h4, h5⟩
    exact ⟨h1, h2, h3, h4, h5⟩

/-- A resolution succeeds exactly when the reference can be used and everything required is
    there, and it tells what is known of sender and target. -/
theorem resolve_eq_ok_iff (h : stores.Answers) {found : ResolvedMentions} :
    let sender := stores.identities.user? message.author.id
    let ref := r.reference stores args message options
    r.resolve stores args message options = .ok found ↔
      ref.Usable stores options ∧ ref.Satisfied stores options sender ∧
        found = describe stores message options sender (ref.known stores options) := by
  intro sender ref
  have hsender : orFail (stores.user message.author.id) = .ok sender := orFail_eq_ok.mpr (h.user_eq _)
  have htarget : r.resolve stores args message options = .ok found ↔
      ∃ target, r.mentioned stores args message options = .ok target ∧ r.missing options sender target = none ∧
        found = describe stores message options sender target := by
    rw [resolve, hsender]
    change (r.mentioned stores args message options >>= _) = .ok found ↔ _
    refine bind_eq_ok.trans (exists_congr fun target => and_congr_right fun _ => ?_)
    cases r.missing options sender target <;> simp [eq_comm]
  rw [htarget]
  constructor
  · rintro ⟨target, ht, hmissing, hfound⟩
    obtain ⟨husable, rfl⟩ := (mentioned_eq_ok h).mp ht
    exact ⟨husable, (missing_eq_none husable).mp hmissing, hfound⟩
  · rintro ⟨husable, hsatisfied, hfound⟩
    exact ⟨_, (mentioned_eq_ok h).mpr ⟨husable, rfl⟩, (missing_eq_none husable).mpr hsatisfied, hfound⟩

/-- A resolution succeeds exactly when the reference is to somebody, as far as the options
    ask for it, and sender and target have what the options require. Its account is the one
    referred to, or else the sender's. -/
theorem resolve_ok_iff (r : Resolver) (stores : Stores) (args : ParsedArgs) (message : InboundMessage)
    (options : ResolverOptions) (answers : stores.Answers) :
    let sender := stores.identities.user? message.author.id
    let ref := r.reference stores args message options
    ((∃ found, r.resolve stores args message options = .ok found) ↔
        ref.Usable stores options ∧ ref.Satisfied stores options sender) ∧
      ∀ found, r.resolve stores args message options = .ok found →
        found.username = (ref.username? stores).or (sender.bind (·.remoteUsername)) := by
  intro sender ref
  refine ⟨⟨?_, ?_⟩, ?_⟩
  · rintro ⟨found, hfound⟩
    obtain ⟨husable, hsatisfied, -⟩ := (resolve_eq_ok_iff answers).mp hfound
    exact ⟨husable, hsatisfied⟩
  · rintro ⟨husable, hsatisfied⟩
    exact ⟨_, (resolve_eq_ok_iff answers).mpr ⟨husable, hsatisfied, rfl⟩⟩
  · intro found hfound
    obtain ⟨-, -, rfl⟩ := (resolve_eq_ok_iff answers).mp hfound
    change (ref.known stores options).username.or _ = _
    rw [ref.known_username]

end Resolver

/-! ### Everything required, of a member by nickname -/

namespace Charts

def joe : LocalIdentity := ⟨"1", some "joe", some "sk1", some 0⟩

def ann : LocalIdentity := ⟨"2", some "ann_fm", none, some 0⟩

def stores : Stores := { Stores.empty with
  identities := (IdentityStore.empty.insert joe).insert ann
  directory := some (Directory.empty.addMember "g" ⟨"2", "ann", some "Annie", false⟩) }

def args : ParsedArgs := Dict.empty.insert "discordUsername" (.mention (.platformUsername "annie"))

def message : InboundMessage := ⟨"m", "!s u:annie", ⟨"1", "joe", none, false⟩, some "g", "c", [], none, []⟩

def options : ResolverOptions := { ResolverOptions.standard with
  senderRequired := true, reverseLookupRequired := true, authenticationRequired := true, requireIndexed := true }

theorem answers : stores.Answers := ⟨rfl, rfl, rfl, rfl⟩

theorem reference_eq : Resolver.reference ⟨"!", "login", []⟩ stores args message options = .user "2" := by rfl

end Charts

open Charts in
/-- Sender and member have what is required, and the account is the member's. -/
theorem Resolver.resolve_ok_annie : stores.Answers ∧
    ∃ found, resolve ⟨"!", "login", []⟩ stores args message options = .ok found ∧ found.username = some "ann_fm" := by
  obtain ⟨hok, husername⟩ := resolve_ok_iff ⟨"!", "login", []⟩ stores args message options answers
  rw [reference_eq] at hok husername
  have husable : (Reference.user "2").Usable stores options := Reference.usable_user.mpr rfl
  have hsatisfied : (Reference.user "2").Satisfied stores options (stores.identities.user? message.author.id) :=
    ⟨fun _ => ⟨"joe", rfl⟩, fun _ => ⟨"ann_fm", rfl⟩, fun _ => ⟨"sk1", rfl⟩, fun _ => ⟨joe, rfl, rfl⟩,
      fun _ _ => ⟨ann, rfl, rfl⟩⟩
  obtain ⟨found, hfound⟩ := hok.mpr ⟨husable, hsatisfied⟩
  exact ⟨answers, found, hfound, husername found hfound⟩

end ChatBot
