/-
  ChatBot.Proofs.Resolver.Precedence — which argument decides whom a command is about.

  Five arguments may refer to somebody (`Source`), and they are asked in order. Nothing
  else of the arguments counts (`mentioned_eq`), and the first source that refers to
  somebody decides (`Decides`):
  - a mention of an account, whatever the message mentions or replies to;
  - a user, or the other user to whom a reply redirects the reference;
  - an id, a nickname in a server with a directory, an account in the text.

  Proved: `resolve_precedence`, for stores that may fail: whatever stands in the sources
  after the one that decides, the resolution has the same result, or fails with the same
  error; and it is about whom the source refers to.
-/
import ChatBot.Proofs.Resolver.Reference

namespace ChatBot

open CommandError

namespace Resolver

/-- An argument that may refer to somebody. -/
inductive Source where
  | remoteMention | userArgument | idMention | nickname | freeText
  deriving DecidableEq

namespace Source

/-- The place in the order in which the sources are asked. -/
def rank : Source → Nat
  | .remoteMention => 0
  | .userArgument => 1
  | .idMention => 2
  | .nickname => 3
  | .freeText => 4

/-- What stands in a source, if it is of the right kind: an account, an id or a nickname. -/
def read (options : ResolverOptions) (args : ParsedArgs) : Source → Option String
  | .remoteMention => match args.mention? options.remoteMentionArgument with
    | some (.remoteUsername name) => some name
    | _ => none
  | .userArgument => (args.mention? options.userArgument).bind (·.platformId?)
  | .idMention => (args.mention? options.idMentionArgument).bind (·.platformId?)
  | .nickname => match args.mention? options.platformUsernameArgument with
    | some (.platformUsername name) => some name
    | _ => none
  | .freeText => args.text? options.inputArgument

end Source

variable (r : Resolver) (stores : Stores) (message : InboundMessage) (options : ResolverOptions)

/-- The platform id that what was read names. -/
def idFrom (heard : Source → Option String) : Except CommandError (Option String) :=
  match heard .userArgument with
  | some id => .ok (r.redirectReply message id)
  | none => match heard .idMention with
    | some id => .ok (some id)
    | none => match heard .nickname, stores.directory, message.guildId with
      | some nickname, some _, some guild => do
        match ← orFail (stores.findMember guild nickname) with
        | some member => .ok (some member.id)
        | none => .error (.notFound ("A member named `" ++ nickname ++ "`"))
      | _, _, _ => .ok none

/-- The target that what was read refers to. -/
def targetFrom (heard : Source → Option String) : Except CommandError Mentioned :=
  match heard .remoteMention with
  | some name => r.remoteTarget stores name options
  | none => do
    match ← r.idFrom stores message heard with
    | some id => platformTarget stores id options
    | none => match heard .freeText with
      | some name => r.remoteTarget stores name options
      | none => .ok .nobody

variable {r stores message options} {args : ParsedArgs} {heard heard' : Source → Option String} {source : Source}

theorem platformIdFrom_eq :
    r.platformIdFrom stores args message options = r.idFrom stores message (Source.read options args) := by
  unfold platformIdFrom idFrom Source.read
  cases (args.mention? options.userArgument).bind (·.platformId?) with
  | some id => rfl
  | none =>
  cases (args.mention? options.idMentionArgument).bind (·.platformId?) with
  | some id => rfl
  | none =>
  cases args.mention? options.platformUsernameArgument with
  | none => rfl
  | some mention =>
  cases mention with
  | platformUsername nickname => cases stores.directory <;> cases message.guildId <;> rfl
  | _ => rfl

/-- The target depends on what is read at the sources, and on nothing else of the arguments. -/
theorem mentioned_eq :
    r.mentioned stores args message options = r.targetFrom stores message options (Source.read options args) := by
  unfold mentioned targetFrom
  rw [platformIdFrom_eq]
  simp only [Source.read]
  cases args.mention? options.remoteMentionArgument with
  | none => rfl
  | some mention => cases mention <;> rfl

/-! ## The source that decides -/

/-- The member of a server who goes by a name. -/
def memberReference (d : Directory) (guild name : String) : Reference :=
  match d.findMember? guild name with
  | some member => .user member.id
  | none => .stranger name

/-- Of what was read, this source is the first to refer to somebody, and to whom. -/
inductive Decides (r : Resolver) (stores : Stores) (message : InboundMessage) (heard : Source → Option String) :
    Source → Reference → Prop
  | remoteMention {name : String} : heard .remoteMention = some name →
    Decides r stores message heard .remoteMention (.account name)
  | userArgument {id kept : String} : heard .remoteMention = none → heard .userArgument = some id →
    r.redirectReply message id = some kept → Decides r stores message heard .userArgument (.user kept)
  | idMention {id : String} : heard .remoteMention = none → heard .userArgument = none → heard .idMention = some id →
    Decides r stores message heard .idMention (.user id)
  | nickname {name guild : String} {d : Directory} : heard .remoteMention = none → heard .userArgument = none →
    heard .idMention = none → heard .nickname = some name → stores.directory = some d →
    message.guildId = some guild → Decides r stores message heard .nickname (memberReference d guild name)

variable {ref : Reference}

theorem targetFrom_remoteMention {name : String} (h : heard .remoteMention = some name) :
    r.targetFrom stores message options heard = r.remoteTarget stores name options := by
  rw [targetFrom, h]

theorem targetFrom_userArgument {id kept : String} (hremote : heard .remoteMention = none)
    (huser : heard .userArgument = some id) (hkept : r.redirectReply message id = some kept) :
    r.targetFrom stores message options heard = platformTarget stores kept options := by
  have hid : r.idFrom stores message heard = .ok (r.redirectReply message id) := by rw [idFrom, huser]
  rw [targetFrom, hremote, hid, hkept]
  rfl

theorem targetFrom_idMention {id : String} (hremote : heard .remoteMention = none)
    (huser : heard .userArgument = none) (hmention : heard .idMention = some id) :
    r.targetFrom stores message options heard = platformTarget stores id options := by
  have hid : r.idFrom stores message heard = .ok (some id) := by rw [idFrom, huser, hmention]
  rw [targetFrom, hremote, hid]
  rfl

/-- The free text is not asked for either: without a member the look-up fails. -/
theorem targetFrom_nickname {name guild : String} {d : Directory} (hremote : heard .remoteMention = none)
    (huser : heard .userArgument = none) (hmention : heard .idMention = none) (hname : heard .nickname = some name)
    (hd : stores.directory = some d) (hguild : message.guildId = some guild) :
    r.targetFrom stores message options heard = orFail (stores.findMember guild name) >>= fun member =>
      match member with
      | some member => platformTarget stores member.id options
      | none => .error (.notFound ("A member named `" ++ name ++ "`")) := by
  have hid : r.idFrom stores message heard = orFail (stores.findMember guild name) >>= fun member =>
      match member with
      | some member => .ok (some member.id)
      | none => .error (.notFound ("A member named `" ++ name ++ "`")) := by
    rw [idFrom, huser, hmention, hname, hd, hguild]
  rw [targetFrom, hremote, hid]
  cases orFail (stores.findMember guild name) with
  | error e => rfl
  | ok member => cases member <;> rfl

/-- What comes after the source that decides is not looked at. -/
theorem targetFrom_congr (h : Decides r stores message heard source ref)
    (agree : ∀ t, t.rank ≤ source.rank → heard' t = heard t) :
    r.targetFrom stores message options heard' = r.targetFrom stores message options heard := by
  cases h with
  | remoteMention hremote =>
    have hremote' := (agree .remoteMention (by decide)).trans hremote
    rw [targetFrom_remoteMention hremote, targetFrom_remoteMention hremote']
  | userArgument hremote huser hkept =>
    have hremote' := (agree .remoteMention (by decide)).trans hremote
    have huser' := (agree .userArgument (by decide)).trans huser
    rw [targetFrom_userArgument hremote huser hkept, targetFrom_userArgument hremote' huser' hkept]
  | idMention hremote huser hmention =>
    have hremote' := (agree .remoteMention (by decide)).trans hremote
    have huser' := (agree .userArgument (by decide)).trans huser
    have hmention' := (agree .idMention (by decide)).trans hmention
    rw [targetFrom_idMention hremote huser hmention, targetFrom_idMention hremote' huser' hmention']
  | nickname hremote huser hmention hname hd hguild =>
    have hremote' := (agree .remoteMention (by decide)).trans hremote
    have huser' := (agree .userArgument (by decide)).trans huser
    have hmention' := (agree .idMention (by decide)).trans hmention
    have hname' := (agree .nickname (by decide)).trans hname
    rw [targetFrom_nickname hremote huser hmention hname hd hguild,
      targetFrom_nickname hremote' huser' hmention' hname' hd hguild]

/-! ## Whom the source refers to -/

theorem remoteTarget_known {name : String} {target : Mentioned} (h : r.remoteTarget stores name options = .ok target) :
    target = (Reference.account name).known stores options := by
  obtain ⟨identity, howner, h⟩ := bind_eq_ok.mp h
  have hidentity : identity = Reference.owner? stores options name := by
    unfold ownerOf at howner
    unfold Reference.owner?
    split at howner
    · rename_i hasked
      rw [if_pos hasked]
      exact (Stores.ask_eq_ok.mp (orFail_eq_ok.mp howner)).2.symm
    · rename_i hasked
      rw [if_neg hasked]
      exact (Except.ok.inj howner).symm
  obtain ⟨-, rfl⟩ := ite_error_eq_ok.mp h
  rw [hidentity]
  rfl

theorem platformTarget_known {id : String} {target : Mentioned} (h : platformTarget stores id options = .ok target) :
    target = (Reference.user id).known stores options := by
  obtain ⟨identity, hidentity, h⟩ := bind_eq_ok.mp h
  obtain ⟨-, rfl⟩ := Stores.ask_eq_ok.mp (orFail_eq_ok.mp hidentity)
  exact (ite_error_eq_ok.mp h).2

/-- The target is the one that the source refers to, when there is one. -/
theorem targetFrom_known (h : Decides r stores message heard source ref) {target : Mentioned}
    (htarget : r.targetFrom stores message options heard = .ok target) :
    target = ref.known stores options ∧ ∀ name, ref ≠ .stranger name := by
  cases h with
  | remoteMention hremote =>
    rw [targetFrom_remoteMention hremote] at htarget
    exact ⟨remoteTarget_known htarget, fun _ => Reference.noConfusion⟩
  | userArgument hremote huser hkept =>
    rw [targetFrom_userArgument hremote huser hkept] at htarget
    exact ⟨platformTarget_known htarget, fun _ => Reference.noConfusion⟩
  | idMention hremote huser hmention =>
    rw [targetFrom_idMention hremote huser hmention] at htarget
    exact ⟨platformTarget_known htarget, fun _ => Reference.noConfusion⟩
  | nickname hremote huser hmention hname hd hguild =>
    rw [targetFrom_nickname hremote huser hmention hname hd hguild] at htarget
    obtain ⟨member, hmember, htarget⟩ := bind_eq_ok.mp htarget
    cases member with
    | none => cases htarget
    | some member =>
      rw [Stores.findMember, hd] at hmember
      obtain ⟨-, hfound⟩ := Stores.ask_eq_ok.mp (orFail_eq_ok.mp hmember)
      rw [memberReference, hfound]
      exact ⟨platformTarget_known htarget, fun _ => Reference.noConfusion⟩

/-! ## The resolution -/

theorem describe_congr {message' : InboundMessage} (h : message'.author = message.author)
    (sender : Option LocalIdentity) (target : Mentioned) :
    describe stores message' options sender target = describe stores message options sender target := by
  simp only [describe, platformUser, h]

theorem resolve_congr {message' : InboundMessage} {args' : ParsedArgs} (h : message'.author = message.author)
    (htarget : r.mentioned stores args' message' options = r.mentioned stores args message options) :
    r.resolve stores args' message' options = r.resolve stores args message options := by
  unfold resolve
  rw [h, htarget]
  simp only [describe_congr h]

/-- Where a source decides, the resolution is about whom it refers to, and it stays the same,
    error or not, whatever stands in the sources after it. A mention of an account decides
    whatever the message mentions or replies to. -/
theorem resolve_precedence (r : Resolver) (stores : Stores) (options : ResolverOptions) (args args' : ParsedArgs)
    (message message' : InboundMessage) (source : Source) (ref : Reference)
    (decides : Decides r stores message (Source.read options args) source ref)
    (agree : ∀ t : Source, t.rank ≤ source.rank → t.read options args' = t.read options args)
    (same : message' = message ∨ source = .remoteMention ∧
      message' = { message with mentions := message'.mentions, replyTo := message'.replyTo }) :
    r.resolve stores args' message' options = r.resolve stores args message options ∧
      ∀ found, r.resolve stores args message options = .ok found →
        found = describe stores message options (stores.identities.user? message.author.id) (ref.known stores options) ∧
          ∀ name, ref ≠ .stranger name := by
  constructor
  · rcases same with rfl | ⟨rfl, hmessage⟩
    · refine resolve_congr rfl ?_
      rw [mentioned_eq, mentioned_eq]
      exact targetFrom_congr decides agree
    · have hauthor : message'.author = message.author := by rw [hmessage]
      refine resolve_congr hauthor ?_
      rw [mentioned_eq, mentioned_eq]
      cases decides with
      | remoteMention hremote =>
        have hremote' := (agree .remoteMention (by decide)).trans hremote
        rw [targetFrom_remoteMention hremote, targetFrom_remoteMention hremote']
  · intro found hfound
    obtain ⟨sender, target, hsender, htarget, -, rfl⟩ := resolve_eq_ok hfound
    rw [mentioned_eq] at htarget
    obtain ⟨rfl, hmember⟩ := targetFrom_known decides htarget
    obtain ⟨-, rfl⟩ := Stores.ask_eq_ok.mp hsender
    exact ⟨rfl, hmember⟩

end Resolver

/-! ### Sources that do not count -/

namespace Overruled

open Resolver

def joe : PlatformUser := ⟨"1", "joe", none, false⟩

def annie : PlatformUser := ⟨"2", "annie", some "Annie", false⟩

def stores : Stores := { Stores.empty with directory := some (Directory.empty.addMember "g" annie) }

def asked : InboundMessage := ⟨"m", "!s", joe, some "g", "c", [], none, []⟩

def replied : InboundMessage := { asked with mentions := [annie], replyTo := some annie }

def account : ParsedArgs := Dict.empty.insert "lfmUser" (.mention (.remoteUsername "rj"))

/-- The account, and a user whom the bot does not know. -/
def accountAndUser : ParsedArgs := account.insert "user" (.mention (.platformId "3"))

/-- A nickname that nobody in the server has. -/
def nickname : ParsedArgs := Dict.empty.insert "discordUsername" (.mention (.platformUsername "bob"))

def nicknameAndText : ParsedArgs := nickname.insert "username" (.text "rj")

theorem decides_account : Decides ⟨"!", "login", []⟩ stores asked (Source.read .standard account) .remoteMention
    (.account "rj") := .remoteMention rfl

theorem decides_nickname : Decides ⟨"!", "login", []⟩ stores asked (Source.read .standard nickname) .nickname
    (memberReference (Directory.empty.addMember "g" annie) "g" "bob") := .nickname rfl rfl rfl rfl rfl rfl

theorem accountAndUser_read (t : Source) (h : t.rank ≤ Source.rank .remoteMention) :
    t.read .standard accountAndUser = t.read .standard account := by
  cases t with
  | remoteMention => rfl
  | _ => exact absurd h (by decide)

theorem nicknameAndText_read (t : Source) (h : t.rank ≤ Source.rank .nickname) :
    t.read .standard nicknameAndText = t.read .standard nickname := by
  cases t with
  | freeText => exact absurd h (by decide)
  | _ => rfl

end Overruled

open Resolver Overruled in
/-- A user whom the bot does not know does no harm beside an account, and an account in the
    text does not help where a nickname is nobody's. -/
theorem Resolver.resolve_precedence_overruled :
    resolve ⟨"!", "login", []⟩ stores accountAndUser replied .standard =
        .ok (describe stores asked .standard none ⟨some "rj", none, none, true⟩) ∧
      resolve ⟨"!", "login", []⟩ stores nicknameAndText asked .standard =
        .error (.notFound "A member named `bob`") := by
  obtain ⟨hbeside, hfound⟩ := resolve_precedence ⟨"!", "login", []⟩ stores .standard account accountAndUser asked
    replied _ _ decides_account accountAndUser_read (.inr ⟨rfl, rfl⟩)
  obtain ⟨hunheard, -⟩ := resolve_precedence ⟨"!", "login", []⟩ stores .standard nickname nicknameAndText asked
    asked _ _ decides_nickname nicknameAndText_read (.inl rfl)
  constructor
  · obtain ⟨found, hok⟩ : ∃ found, resolve ⟨"!", "login", []⟩ stores account asked .standard = .ok found := ⟨_, rfl⟩
    rw [hbeside, hok, (hfound found hok).1]
    rfl
  · rw [hunheard]
    rfl

end ChatBot
