/-
  ChatBot.Proofs.Resolver.Target — what is known of whom the arguments refer to.

  Whichever argument names the target, what comes of it is one of five things (`Target`):
  nobody, an id with or without an identity, a remote user name with or without one.
  `mentioned_spec` says so of every target, and `resolve_eq_ok` takes a resolution apart.
-/
import ChatBot.Resolver

namespace ChatBot.Resolver

open CommandError

variable {r : Resolver} {stores : Stores} {args : ParsedArgs} {message : InboundMessage} {options : ResolverOptions}

/-- What is known of a target: nothing without a reference, its own account when it was
    found by id, and an identity of its account when it was found by that. -/
inductive Target (stores : Stores) (options : ResolverOptions) : Mentioned → Prop
  | nobody : Target stores options .nobody
  | unknownId (id : String) : options.usernameRequired = false → Target stores options ⟨none, none, some id, true⟩
  | byId (i : LocalIdentity) (id : String) : i ∈ stores.identities.users.values →
      (i.remoteUsername = none → options.usernameRequired = false) →
      Target stores options ⟨i.remoteUsername, some i, some id, true⟩
  | unknownName (name : String) : Target stores options ⟨some name, none, none, true⟩
  | byName (i : LocalIdentity) (name : String) : i ∈ stores.identities.users.values →
      IdentityStore.hasUsername name i = true → Target stores options ⟨some name, some i, some i.platformId, true⟩

theorem remoteTarget_spec {name : String} {target : Mentioned} (h : r.remoteTarget stores name options = .ok target) :
    Target stores options target := by
  obtain ⟨identity, hi, h⟩ := bind_eq_ok.mp h
  split at h
  · cases h
  cases h
  cases identity with
  | none => exact .unknownName name
  | some i =>
    unfold ownerOf at hi
    split at hi
    · obtain ⟨-, hfound⟩ := Stores.ask_eq_ok.mp (orFail_eq_ok.mp hi)
      exact .byName i name (List.mem_of_find?_eq_some hfound) (List.find?_some hfound)
    · cases hi

theorem platformTarget_spec {id : String} {target : Mentioned} (h : platformTarget stores id options = .ok target) :
    Target stores options target := by
  obtain ⟨identity, hi, h⟩ := bind_eq_ok.mp h
  obtain ⟨-, hfound⟩ := Stores.ask_eq_ok.mp (orFail_eq_ok.mp hi)
  dsimp only at h
  split at h
  · cases h
  rename_i hreq
  cases h
  cases identity with
  | none => exact .unknownId id (by simpa using hreq)
  | some i =>
    refine .byId i id (Dict.mem_values_of_get? hfound) fun hn => ?_
    simpa [hn] using hreq

theorem mentioned_spec {target : Mentioned} (h : r.mentioned stores args message options = .ok target) :
    Target stores options target := by
  unfold mentioned at h
  split at h
  · exact remoteTarget_spec h
  obtain ⟨id, -, h⟩ := bind_eq_ok.mp h
  split at h
  · exact platformTarget_spec h
  split at h
  · exact remoteTarget_spec h
  · cases h
    exact .nobody

theorem resolve_eq_ok {found : ResolvedMentions} (h : r.resolve stores args message options = .ok found) :
    ∃ sender target, stores.user message.author.id = .ok sender ∧ r.mentioned stores args message options = .ok target ∧
      r.missing options sender target = none ∧ found = describe stores message options sender target := by
  obtain ⟨sender, hs, h⟩ := bind_eq_ok.mp h
  obtain ⟨target, ht, h⟩ := bind_eq_ok.mp h
  refine ⟨sender, target, orFail_eq_ok.mp hs, ht, ?_⟩
  split at h
  · cases h
  · rename_i hm
    cases h
    exact ⟨hm, rfl⟩

end ChatBot.Resolver
