/-
  ChatBot.Proofs.Resolver.SecondPerson — when a reply speaks to the sender.

  Sender and target are compared by their accounts. But an account that is not there is
  made up for: the sender's by the name that the sender has in the chat, the target's by
  what stands for the sender's. So a sender without an account is spoken to in two more
  cases (`resolve_isSelf_iff`): when an account of their chat name was referred to, and
  when whoever was referred to has no account either. In both somebody else is meant
  (`not_resolve_isSelf_iff`).
-/
import ChatBot.Proofs.Resolver.Target

namespace ChatBot

open Text

namespace Resolver

variable {stores : Stores} {message : InboundMessage} {options : ResolverOptions} {sender : Option LocalIdentity}
  {target : Mentioned}

/-- What stands for the sender's account. -/
def senderName (message : InboundMessage) (found : ResolvedMentions) : String :=
  found.senderUsername.getD message.author.username

/-- What stands for the target's account. -/
def targetName (message : InboundMessage) (found : ResolvedMentions) : String :=
  found.username.getD (senderName message found)

/-- The reply speaks to the target, or names the user that is shown, or else the account. -/
theorem describe_perspective {found : ResolvedMentions}
    (h : found = describe stores message options sender target) :
    found.perspective =
      if alike (senderName message found) (targetName message found) then .secondPerson
      else match found.platformUser, found.mentioned with
        | some shown, true => .thirdPerson shown.name false
        | _, _ => .thirdPerson (targetName message found) options.asCode := by
  have hbuild : found.perspective = match found.platformUser, found.mentioned with
      | some shown, true => (Perspective.build (senderName message found) (targetName message found)
          options.asCode).withDisplayName shown.name
      | _, _ => Perspective.build (senderName message found) (targetName message found) options.asCode := by
    rw [h]
    rfl
  rw [hbuild, Perspective.build]
  cases alike (senderName message found) (targetName message found) with
  | true =>
    rw [if_pos rfl, if_pos rfl]
    split <;> rfl
  | false =>
    rw [if_neg Bool.false_ne_true, if_neg Bool.false_ne_true]
    split <;> rfl

theorem isSelf_iff_alike {found : ResolvedMentions} (h : found = describe stores message options sender target) :
    found.perspective.isSelf = true ↔ alike (senderName message found) (targetName message found) = true := by
  rw [describe_perspective h]
  split
  · rename_i halike
    exact iff_of_true rfl halike
  · rename_i halike
    refine iff_of_false ?_ halike
    split <;> exact Bool.false_ne_true

theorem isSelf_cases (htarget : Target stores options target) {found : ResolvedMentions}
    (h : found = describe stores message options sender target) :
    found.perspective.isSelf = true ↔
      found.mentioned = false ∨
        (∃ s u, found.senderUsername = some s ∧ found.username = some u ∧ alike s u = true) ∨
        (found.mentioned = true ∧ found.senderUsername = none ∧
          ∀ u, found.username = some u → alike message.author.username u = true) := by
  rw [isSelf_iff_alike h, senderName, targetName, senderName]
  have hown : found.mentioned = false → found.username = found.senderUsername := by
    intro hnobody
    rw [h] at hnobody ⊢
    cases htarget with
    | nobody => rfl
    | _ => cases hnobody
  have hborrowed : ∀ s, found.senderUsername = some s → ∃ u, found.username = some u := by
    intro s hs
    rw [h] at hs ⊢
    show ∃ u, target.username.or (sender.bind (·.remoteUsername)) = some u
    rw [show sender.bind (·.remoteUsername) = some s from hs]
    cases target.username with
    | none => exact ⟨s, rfl⟩
    | some u => exact ⟨u, rfl⟩
  cases hs : found.senderUsername with
  | some s =>
    obtain ⟨u, hu⟩ := hborrowed s hs
    rw [hu]
    constructor
    · exact fun halike => .inr (.inl ⟨s, u, rfl, rfl, halike⟩)
    · rintro (hnobody | ⟨_, _, ⟨⟩, ⟨⟩, halike⟩ | ⟨-, hnone, -⟩)
      · have heq := hown hnobody
        rw [hu, hs] at heq
        cases heq
        exact alike_refl _
      · exact halike
      · cases hnone
  | none =>
    constructor
    · intro halike
      rcases Bool.eq_false_or_eq_true found.mentioned with hmentioned | hnobody
      · refine .inr (.inr ⟨hmentioned, rfl, fun u hu => ?_⟩)
        rwa [hu] at halike
      · exact .inl hnobody
    · rintro (hnobody | ⟨_, _, ⟨⟩, -⟩ | ⟨-, -, halike⟩)
      · rw [hown hnobody, hs]
        exact alike_refl _
      · cases hu : found.username with
        | none => exact alike_refl _
        | some u => exact halike u hu

/-- A reply speaks to the sender in these cases: nobody else was referred to, or the account
    is the sender's own, or the sender has no account and no other account than one of
    their chat name was found. Otherwise it names the user that is shown, or the account. -/
theorem resolve_isSelf_iff (r : Resolver) (stores : Stores) (args : ParsedArgs) (message : InboundMessage)
    (options : ResolverOptions) (found : ResolvedMentions) (h : r.resolve stores args message options = .ok found) :
    (found.perspective.isSelf = true ↔
      found.mentioned = false ∨
        (∃ s u, found.senderUsername = some s ∧ found.username = some u ∧ alike s u = true) ∨
        (found.mentioned = true ∧ found.senderUsername = none ∧
          ∀ u, found.username = some u → alike message.author.username u = true)) ∧
      (found.perspective.isSelf = true → found.perspective = .secondPerson) ∧
      (found.perspective.isSelf = false → ∃ u, found.username = some u ∧
        found.perspective = match found.platformUser with
          | some shown => .thirdPerson shown.name false
          | none => .thirdPerson u options.asCode) := by
  obtain ⟨sender, target, -, htarget, -, hfound⟩ := resolve_eq_ok h
  have hiff := isSelf_cases (mentioned_spec htarget) hfound
  have hperspective := describe_perspective hfound
  refine ⟨hiff, fun hself => ?_, fun hself => ?_⟩
  · rwa [if_pos ((isSelf_iff_alike hfound).mp hself)] at hperspective
  have hnot : ¬ alike (senderName message found) (targetName message found) = true := by
    rw [← isSelf_iff_alike hfound, hself]
    exact Bool.false_ne_true
  rw [if_neg hnot] at hperspective
  have hmentioned : found.mentioned = true := by
    rw [← Bool.not_eq_false]
    intro hnobody
    rw [hiff.mpr (.inl hnobody)] at hself
    cases hself
  cases husername : found.username with
  | none =>
    rw [targetName, husername] at hnot
    exact absurd (alike_refl _) hnot
  | some u =>
    refine ⟨u, rfl, ?_⟩
    rw [hperspective, hmentioned, targetName, husername]
    cases found.platformUser <;> rfl

end Resolver

/-! ### A sender without an account -/

namespace Unlinked

def joe : PlatformUser := ⟨"1", "joe", none, false⟩

def message : InboundMessage := ⟨"m", "!s <@2>", joe, some "g", "c", [], none, []⟩

/-- Refers to an account. -/
def account (name : String) : ParsedArgs := Dict.empty.insert "lfmUser" (.mention (.remoteUsername name))

/-- Refers to a user whom the bot does not know. -/
def stranger : ParsedArgs := Dict.empty.insert "user" (.mention (.platformId "2"))

def options : ResolverOptions := { ResolverOptions.standard with usernameRequired := false }

def found (target : Resolver.Mentioned) : ResolvedMentions := Resolver.describe .empty message options none target

theorem resolve_account (name : String) : Resolver.resolve ⟨"!", "login", []⟩ .empty (account name) message options =
    .ok (found ⟨some name, none, none, true⟩) := rfl

theorem resolve_stranger : Resolver.resolve ⟨"!", "login", []⟩ .empty stranger message options =
    .ok (found ⟨none, none, some "2", true⟩) := rfl

end Unlinked

open Unlinked in
/-- The account of another name is named; a user without an account is spoken to as the sender. -/
theorem Resolver.resolve_isSelf_iff_unlinked :
    resolve ⟨"!", "login", []⟩ .empty (account "annie") message options = .ok (found ⟨some "annie", none, none, true⟩) ∧
      (found ⟨some "annie", none, none, true⟩).perspective = .thirdPerson "annie" true ∧
      resolve ⟨"!", "login", []⟩ .empty stranger message options = .ok (found ⟨none, none, some "2", true⟩) ∧
      (found ⟨none, none, some "2", true⟩).perspective = .secondPerson := by
  obtain ⟨-, -, hthird⟩ := resolve_isSelf_iff _ _ _ _ _ _ (resolve_account "annie")
  obtain ⟨u, hu, hperspective⟩ := hthird rfl
  cases hu
  obtain ⟨hself, hsecond, -⟩ := resolve_isSelf_iff _ _ _ _ _ _ resolve_stranger
  refine ⟨resolve_account "annie", hperspective, resolve_stranger, hsecond (hself.mpr (.inr (.inr ⟨rfl, rfl, ?_⟩)))⟩
  rintro u ⟨⟩

open Unlinked in
/-- Somebody else's account is taken for the sender's. -/
theorem Resolver.not_resolve_isSelf_iff : ¬ ∀ (r : Resolver) (stores : Stores) (args : ParsedArgs)
    (message : InboundMessage) (options : ResolverOptions) (found : ResolvedMentions),
    r.resolve stores args message options = .ok found →
    (found.perspective.isSelf = true ↔
      found.mentioned = false ∨
        ∃ s u, found.senderUsername = some s ∧ found.username = some u ∧ alike s u = true) := by
  intro h
  rcases (h _ _ _ _ _ _ (resolve_account "JOE")).mp rfl with hnobody | ⟨s, u, hs, -⟩
  · cases hnobody
  · cases hs

end ChatBot
