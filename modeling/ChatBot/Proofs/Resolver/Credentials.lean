/-
  ChatBot.Proofs.Resolver.Credentials — whose credential a call is made with.

  The account of a target falls back to the sender's, the identity that supplies the
  credential does not. So they may belong to two users: a target that is known and has a
  credential, but no account, lends it to the account of the sender (`Lends`). In every
  other case account and credential are of one identity (`resolve_owned_or_lent`).
-/
import ChatBot.Proofs.Resolver.Target

namespace ChatBot

open Text

/-- Some identity that the bot knows has the account and the credential. -/
def IdentityStore.Owns (s : IdentityStore) (username sessionKey : String) : Prop :=
  ∃ i ∈ s.users.values, hasUsername username i = true ∧ i.sessionKey = some sessionKey

theorem Requestable.forIdentity_eq_session {username u k : String} {identity : Option LocalIdentity} :
    forIdentity username identity = .session u k ↔
      username = u ∧ ∃ i, identity = some i ∧ i.sessionKey = some k := by
  unfold forIdentity
  cases identity with
  | none => simp
  | some i => cases hk : i.sessionKey <;> simp [hk]

namespace Resolver

variable {stores : Stores} {message : InboundMessage} {options : ResolverOptions}

/-- The target is known, with a credential and without an account, and the sender has this
    account. -/
def Lends (found : ResolvedMentions) (username sessionKey : String) : Prop :=
  ∃ i, found.mentionedIdentity = some i ∧ i.remoteUsername = none ∧ i.sessionKey = some sessionKey ∧
    found.senderUsername = some username

theorem map_forIdentity_eq_session {username : Option String} {identity : Option LocalIdentity} {u k : String} :
    username.map (Requestable.forIdentity · identity) = some (.session u k) ↔
      username = some u ∧ ∃ i, identity = some i ∧ i.sessionKey = some k := by
  cases username with
  | none => simp
  | some name => simp [Requestable.forIdentity_eq_session]

/-- The account falls back to the sender's, the identity does only when nobody is referred to. -/
theorem requestable_eq_session {sender : Option LocalIdentity} {target : Mentioned} {u k : String} :
    (describe stores message options sender target).requestable = some (.session u k) ↔
      target.username.or (sender.bind (·.remoteUsername)) = some u ∧
        ∃ i, (if target.referenced then target.identity else sender) = some i ∧ i.sessionKey = some k :=
  map_forIdentity_eq_session

theorem owns_of_remoteUsername {i : LocalIdentity} {u k : String} (hi : i ∈ stores.identities.users.values)
    (hu : i.remoteUsername = some u) (hk : i.sessionKey = some k) : stores.identities.Owns u k :=
  ⟨i, hi, by rw [IdentityStore.hasUsername, hu]; exact alike_refl u, hk⟩

theorem sender_owns {id u k : String} {sender : Option LocalIdentity} (hs : stores.user id = .ok sender)
    (hu : sender.bind (·.remoteUsername) = some u) (hk : ∃ i, sender = some i ∧ i.sessionKey = some k) :
    stores.identities.Owns u k := by
  obtain ⟨i, rfl, hk⟩ := hk
  obtain ⟨-, hfound⟩ := Stores.ask_eq_ok.mp hs
  exact owns_of_remoteUsername (Dict.mem_values_of_get? hfound) hu hk

theorem target_owned_or_lent {sender : Option LocalIdentity} {target : Mentioned} {u k : String}
    (hs : stores.user message.author.id = .ok sender) (ht : Target stores options target)
    (h : (describe stores message options sender target).requestable = some (.session u k)) :
    stores.identities.Owns u k ∨ options.usernameRequired = false ∧
      Lends (describe stores message options sender target) u k := by
  obtain ⟨hname, hkey⟩ := requestable_eq_session.mp h
  cases ht with
  | nobody => exact .inl (sender_owns hs hname hkey)
  | unknownId id _ =>
    obtain ⟨i, hi, -⟩ := hkey
    cases hi
  | byId i id hi hreq =>
    obtain ⟨_, hi', hk⟩ := hkey
    cases hi'
    cases hu : i.remoteUsername with
    | none =>
      rw [hu] at hname
      exact .inr ⟨hreq hu, i, rfl, hu, hk, hname⟩
    | some own =>
      rw [hu] at hname
      cases hname
      exact .inl (owns_of_remoteUsername hi hu hk)
  | unknownName other =>
    obtain ⟨i, hi, -⟩ := hkey
    cases hi
  | byName i other hi hu =>
    obtain ⟨_, hi', hk⟩ := hkey
    cases hi'
    cases hname
    exact .inl ⟨i, hi, hu, hk⟩

theorem requestable_of_lends {sender : Option LocalIdentity} {target : Mentioned} {u k : String}
    (ht : Target stores options target) (h : Lends (describe stores message options sender target) u k) :
    (describe stores message options sender target).requestable = some (.session u k) := by
  obtain ⟨i, hi, hu, hk, hsender⟩ := h
  cases ht with
  | nobody => cases hi
  | unknownId => cases hi
  | byId i' id =>
    cases hi
    refine requestable_eq_session.mpr ⟨?_, i, rfl, hk⟩
    rw [hu]
    exact hsender
  | unknownName => cases hi
  | byName i' other _ hother =>
    cases hi
    simp [IdentityStore.hasUsername, hu] at hother

/-- The sender's credential is always used with the sender's account. That of the target is
    used with its own account, except when the target is known, has a credential and no
    account, and none is required: then it is used with the account of the sender. -/
theorem resolve_owned_or_lent (r : Resolver) (stores : Stores) (args : ParsedArgs) (message : InboundMessage)
    (options : ResolverOptions) (found : ResolvedMentions)
    (h : r.resolve stores args message options = .ok found) :
    (∀ u k, found.senderRequestable = some (.session u k) → stores.identities.Owns u k) ∧
      (∀ u k, found.requestable = some (.session u k) →
        stores.identities.Owns u k ∨ options.usernameRequired = false ∧ Lends found u k) ∧
      ∀ u k, Lends found u k → found.requestable = some (.session u k) := by
  obtain ⟨sender, target, hs, ht, -, rfl⟩ := resolve_eq_ok h
  have htarget := mentioned_spec ht
  refine ⟨fun u k hsession => ?_, fun _ _ => target_owned_or_lent hs htarget, fun _ _ => requestable_of_lends htarget⟩
  obtain ⟨hu, hk⟩ := map_forIdentity_eq_session.mp hsession
  exact sender_owns hs hu hk

end Resolver

/-! ### A lent credential -/

namespace Lent

def joe : LocalIdentity := ⟨"1", some "joe", none, none⟩

/-- Has a credential and no account. -/
def ann : LocalIdentity := ⟨"2", none, some "sk2", none⟩

def stores : Stores := { Stores.empty with identities := (IdentityStore.empty.insert joe).insert ann }

def args : ParsedArgs := Dict.empty.insert "user" (.mention (.platform "2"))

def message : InboundMessage := ⟨"m", "!s <@2>", ⟨"1", "joe", none, false⟩, none, "c", [], none, []⟩

def options : ResolverOptions := { ResolverOptions.standard with usernameRequired := false }

def found : ResolvedMentions := Resolver.describe stores message options (some joe) ⟨none, some ann, some "2", true⟩

theorem found_eq : Resolver.resolve ⟨"!", "login", []⟩ stores args message options = .ok found := by rfl

end Lent

open Lent in
/-- Joe is to act with a credential of Ann's. -/
theorem Resolver.resolve_lent :
    resolve ⟨"!", "login", []⟩ stores args message options = .ok found ∧
      found.requestable = some (.session "joe" "sk2") := by
  have hlends : Lends found "joe" "sk2" := ⟨ann, rfl, rfl, rfl, rfl⟩
  exact ⟨found_eq, (resolve_owned_or_lent _ _ _ _ _ _ found_eq).2.2 _ _ hlends⟩

open Lent in
/-- So credentials are mixed between users. -/
theorem Resolver.not_resolve_owned : ¬ ∀ (r : Resolver) (stores : Stores) (args : ParsedArgs)
    (message : InboundMessage) (options : ResolverOptions) (found : ResolvedMentions),
    r.resolve stores args message options = .ok found → ∀ u k, found.requestable = some (.session u k) ∨
      found.senderRequestable = some (.session u k) → stores.identities.Owns u k := by
  intro h
  obtain ⟨i, hi, hu, hk⟩ := h _ _ _ _ _ _ found_eq "joe" "sk2" (.inl rfl)
  rw [show stores.identities.users.values = [joe, ann] from rfl] at hi
  have hi : i = joe ∨ i = ann := by simpa using hi
  rcases hi with rfl | rfl
  · cases hk
  · cases hu

end ChatBot
