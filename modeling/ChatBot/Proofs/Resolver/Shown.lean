/-
  ChatBot.Proofs.Resolver.Shown — which user of the platform is shown for a target.

  A reference by id, and one to an account whose owner was looked up, show the user with
  that id, if the directory has one. The owner of an account is looked up only where a
  requirement asks for it, and an account may have none. Then no id is known and the author
  of the message is shown in the target's place (`resolve_shows`): what is said of somebody
  else's account is said under the author's name (`not_resolve_shows_target`).
-/
import ChatBot.Proofs.Resolver.Reference

namespace ChatBot

open Text

namespace Directory

/-- Somebody becomes known to the platform, or joins a server. -/
inductive Arrival where
  | user (u : PlatformUser)
  | member (guild : String) (u : PlatformUser)

def arrive (d : Directory) : Arrival → Directory
  | .user u => d.addUser u
  | .member guild u => d.addMember guild u

/-- The directory after these arrivals, in order. -/
def ofArrivals (arrivals : List Arrival) : Directory := arrivals.foldl arrive empty

/-- Every user stands under their own id. -/
def Keyed (d : Directory) : Prop := ∀ id u, d.user? id = some u → u.id = id

theorem Keyed.addUser {d : Directory} (h : d.Keyed) (u : PlatformUser) : (d.addUser u).Keyed := by
  intro id v hv
  change (d.users.insert u.id u).get? id = some v at hv
  rw [Dict.get?_insert] at hv
  split at hv
  · rename_i hid
    cases hv
    exact hid.symm
  · exact h id v hv

theorem Keyed.arrive {d : Directory} (h : d.Keyed) (a : Arrival) : (d.arrive a).Keyed := by
  cases a with
  | user u => exact h.addUser u
  | member guild u =>
    have hmembers : Keyed { d with members := d.members.insert guild ((d.members.get? guild).getD [] ++ [u.id]) } := h
    exact hmembers.addUser u

theorem keyed_ofArrivals (arrivals : List Arrival) : (ofArrivals arrivals).Keyed := by
  have hfold : ∀ d : Directory, d.Keyed → (arrivals.foldl Directory.arrive d).Keyed := by
    induction arrivals with
    | nil => exact fun d hd => hd
    | cons a arrivals ih => exact fun d hd => ih (d.arrive a) (hd.arrive a)
  exact hfold empty fun id u hu => nomatch hu

end Directory

namespace Resolver

variable {stores : Stores} {message : InboundMessage} {options : ResolverOptions}

namespace Reference

/-- The platform id that is known of whom the reference is to. -/
def platformId? (stores : Stores) (options : ResolverOptions) : Reference → Option String
  | .user id => some id
  | .account name => (owner? stores options name).map (·.platformId)
  | _ => none

theorem known_platformId (ref : Reference) :
    (ref.known stores options).platformId = ref.platformId? stores options := by
  cases ref <;> rfl

theorem platformId?_eq_none {ref : Reference} (hnobody : ref ≠ .nobody) (husable : ref.Usable stores options) :
    ref.platformId? stores options = none ↔ ∃ name, ref = .account name ∧ owner? stores options name = none := by
  cases ref with
  | nobody => exact absurd rfl hnobody
  | stranger nickname => exact absurd husable not_usable_stranger
  | user id => simp [platformId?]
  | account name => simp [platformId?]

end Reference

/-! ## The user that is shown -/

theorem platformUser_of_id (answers : stores.Answers) (fetch : options.fetchPlatformUser = true) {target : Mentioned}
    {id : String} (h : target.platformId = some id) :
    platformUser stores message options target = stores.directory.bind (·.user? id) := by
  simp [platformUser, fetch, h, answers.fetchUser_eq]

theorem platformUser_of_no_id (fetch : options.fetchPlatformUser = true) {target : Mentioned}
    (h : target.platformId = none) : platformUser stores message options target = some message.author := by
  simp [platformUser, fetch, h]

/-- The target is spoken to, or spoken of under the name of the user that is shown. -/
theorem perspective_describe {sender : Option LocalIdentity} {target : Mentioned} {u : PlatformUser}
    (hreferenced : target.referenced = true) (hshown : platformUser stores message options target = some u) :
    (describe stores message options sender target).perspective = .secondPerson ∨
      (describe stores message options sender target).perspective = .thirdPerson u.name false := by
  have hbuild : ∀ name target asCode, (Perspective.build name target asCode).withDisplayName u.name = .secondPerson ∨
      (Perspective.build name target asCode).withDisplayName u.name = .thirdPerson u.name false := by
    intro name target asCode
    unfold Perspective.build
    split
    · exact .inl rfl
    · exact .inr rfl
  simp only [describe, hshown, hreferenced]
  exact hbuild _ _ _

/-- A target whose platform id is known is shown as the user with this id. That of an
    account whose owner is not known, and only that, is shown as the author of the message.
    A reply in the third person names the user that is shown. -/
theorem resolve_shows (r : Resolver) (stores : Stores) (args : ParsedArgs) (message : InboundMessage)
    (options : ResolverOptions) (found : ResolvedMentions) (answers : stores.Answers)
    (arrived : ∀ d, stores.directory = some d → ∃ arrivals, d = .ofArrivals arrivals)
    (fetch : options.fetchPlatformUser = true) (h : r.resolve stores args message options = .ok found)
    (mentioned : found.mentioned = true) :
    let ref := r.reference stores args message options
    (∀ id, ref.platformId? stores options = some id →
        found.platformUser = stores.directory.bind (·.user? id) ∧ ∀ u, found.platformUser = some u → u.id = id) ∧
      (ref.platformId? stores options = none ↔
        ∃ name, ref = .account name ∧ Reference.owner? stores options name = none) ∧
      (ref.platformId? stores options = none → found.platformUser = some message.author) ∧
      ∀ u, found.platformUser = some u →
        found.perspective = .secondPerson ∨ found.perspective = .thirdPerson u.name false := by
  intro ref
  obtain ⟨husable, -, rfl⟩ := (resolve_eq_ok_iff answers).mp h
  have hnobody : ref ≠ .nobody := by
    intro hnobody
    rw [show (describe stores message options _ (ref.known stores options)).mentioned =
      (ref.known stores options).referenced from rfl, hnobody] at mentioned
    cases mentioned
  refine ⟨fun id hid => ?_, Reference.platformId?_eq_none hnobody husable, fun hid => ?_, fun u hu => ?_⟩
  · have hshown : platformUser stores message options (ref.known stores options) =
        stores.directory.bind (·.user? id) := platformUser_of_id answers fetch ((ref.known_platformId).trans hid)
    refine ⟨hshown, fun u hu => ?_⟩
    obtain ⟨d, hd, hfound⟩ := Option.bind_eq_some_iff.mp (hshown.symm.trans hu)
    obtain ⟨arrivals, rfl⟩ := arrived d hd
    exact Directory.keyed_ofArrivals arrivals id u hfound
  · exact platformUser_of_no_id fetch ((ref.known_platformId).trans hid)
  · exact perspective_describe mentioned hu

end Resolver

/-! ### Somebody else's account -/

namespace Elsewhere

def joe : PlatformUser := ⟨"1", "joe_d", some "Joe D", false⟩

def ann : PlatformUser := ⟨"2", "ann", some "Annie", false⟩

def stores : Stores := { Stores.empty with
  identities := IdentityStore.empty.insert ⟨"1", some "joe", none, none⟩ |>.insert ⟨"2", some "ann_fm", none, none⟩
  directory := some (.ofArrivals [.user joe, .member "g" ann]) }

/-- Refers to an account. -/
def args (name : String) : ParsedArgs := Dict.empty.insert "lfmUser" (.mention (.remoteUsername name))

def message : InboundMessage := ⟨"m", "!s lfm:someone", joe, some "g", "c", [], none, []⟩

def options (lookUp : Bool) : ResolverOptions :=
  { ResolverOptions.standard with fetchPlatformUser := true, reverseLookupRequired := lookUp }

def found (lookUp : Bool) (name : String) : ResolvedMentions :=
  Resolver.describe stores message (options lookUp) (some ⟨"1", some "joe", none, none⟩)
    ((Resolver.Reference.account name).known stores (options lookUp))

theorem answers : stores.Answers := ⟨rfl, rfl, rfl, rfl⟩

theorem arrived (d : Directory) (h : stores.directory = some d) : ∃ arrivals, d = .ofArrivals arrivals :=
  ⟨[.user joe, .member "g" ann], (Option.some.inj h).symm⟩

end Elsewhere

open Elsewhere in
/-- An owner who is looked up is shown. -/
theorem Resolver.resolve_shows_annie :
    resolve ⟨"!", "login", []⟩ stores (args "ann_fm") message (options true) = .ok (found true "ann_fm") ∧
      (found true "ann_fm").platformUser = some ann ∧
      (found true "ann_fm").perspective = .thirdPerson "Annie" false := by
  have hresolved : resolve ⟨"!", "login", []⟩ stores (args "ann_fm") message (options true) =
      .ok (found true "ann_fm") := by rfl
  obtain ⟨hknown, -, -, hperspective⟩ := resolve_shows _ _ _ _ _ _ answers arrived rfl hresolved rfl
  have hshown : (found true "ann_fm").platformUser = some ann := (hknown "2" rfl).1
  exact ⟨hresolved, hshown, (hperspective ann hshown).resolve_left (by decide)⟩

open Elsewhere in
/-- But an account that nobody is known to own is shown as the author of the message. -/
theorem Resolver.not_resolve_shows_target : ¬ ∀ (r : Resolver) (stores : Stores) (args : ParsedArgs)
    (message : InboundMessage) (options : ResolverOptions) (found : ResolvedMentions), stores.Answers →
    (∀ d, stores.directory = some d → ∃ arrivals, d = .ofArrivals arrivals) → options.fetchPlatformUser = true →
    r.resolve stores args message options = .ok found → found.mentioned = true →
    ∀ u, found.platformUser = some u →
      (r.reference stores args message options).platformId? stores options = some u.id := by
  intro h
  have hresolved : resolve ⟨"!", "login", []⟩ stores (args "someone") message (options false) =
      .ok (found false "someone") := by rfl
  have hshown := h _ _ _ _ _ _ answers arrived rfl hresolved rfl joe rfl
  cases hshown

end ChatBot
