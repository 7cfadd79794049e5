/-
  ChatBot.Proofs.Resolver.BestEffort — what does not depend on the optional fetches.

  When every requirement is met, a resolution may still ask the directory for the user to
  show, and the analytics service for its record of the account. Both calls are made after
  the last check, and neither has to be answered. `Fetches` are any answers to them, and
  `resolveFetching` is a resolution that is given these; the stores answer in one such way.
  `unfetched` leaves out what the answers can show in: the user, the record, and the wording
  of a third person. What is left, an error included, is the same for all answers, asked
  for or not (`resolve_best_effort`).
-/
import ChatBot.Resolver

namespace ChatBot

open CommandError (orFail)

/-- Answers to the calls that a resolution can do without. -/
structure Fetches where
  user : String → Except ServiceError (Option PlatformUser)
  analytics : String → Except ServiceError (Option AnalyticsIdentity)

/-- What the directory and the analytics service answer. -/
def Stores.fetches (s : Stores) : Fetches := ⟨s.fetchUser, s.analyticsIdentity⟩

/-- The stores when no user can be fetched, if there is an outage, with another analytics
    service or none. -/
def Stores.withFetches (s : Stores) (outage : Option ServiceError) (service : Option Analytics) : Stores :=
  { s.setOutage .fetchUser outage with analytics := service }

/-- The options, with the fetches asked for or not. -/
def ResolverOptions.asking (options : ResolverOptions) (user analytics : Bool) : ResolverOptions :=
  { options with fetchPlatformUser := user, fetchAnalyticsIdentity := analytics }

/-! ## What they show in -/

namespace Perspective

/-- A target goes by the name of the user that is shown. -/
def showing (p : Perspective) (shown : Option PlatformUser) (referenced : Bool) : Perspective :=
  match shown, referenced with
  | some user, true => p.withDisplayName user.name
  | _, _ => p

/-- Without the words for a third person. -/
def unworded (p : Perspective) : Perspective :=
  if p.isSelf then p else { p with name := "", possessive := "", has := "", is := "" }

theorem unworded_withDisplayName (p : Perspective) (name : String) :
    (p.withDisplayName name).unworded = p.unworded := by
  unfold withDisplayName
  split
  · rfl
  · rename_i hself
    simp [unworded, thirdPerson, hself]

theorem unworded_showing (p : Perspective) (shown : Option PlatformUser) (referenced : Bool) :
    (p.showing shown referenced).unworded = p.unworded := by
  unfold showing
  split
  · exact unworded_withDisplayName p _
  · rfl

end Perspective

/-- Without what the optional fetches can show in. -/
def ResolvedMentions.unfetched (m : ResolvedMentions) : ResolvedMentions :=
  { m with
    platformUser := none
    analyticsIdentity := none
    perspective := m.perspective.unworded }

/-! ## A resolution under any answers -/

namespace Fetches

/-- The platform user to show: the target by id, else the author. -/
def platformUser (fetches : Fetches) (message : InboundMessage) (options : ResolverOptions)
    (target : Resolver.Mentioned) : Option PlatformUser :=
  if !options.fetchPlatformUser then none
  else match target.platformId with
    | none => some message.author
    | some id => match fetches.user id with
      | .ok user => user
      | .error _ => none

/-- What the analytics service knows of the account. -/
def analyticsIdentity (fetches : Fetches) (options : ResolverOptions) (username : Option String) :
    Option AnalyticsIdentity :=
  if !options.fetchAnalyticsIdentity then none
  else match username with
    | none => none
    | some u => match fetches.analytics u with
      | .ok identity => identity
      | .error _ => none

end Fetches

namespace Resolver

/-- What is known when every requirement is met and this was fetched. -/
def describeShowing (shown : Option PlatformUser) (analytics : Option AnalyticsIdentity) (message : InboundMessage)
    (asCode : Bool) (sender : Option LocalIdentity) (target : Mentioned) : ResolvedMentions :=
  let senderUsername := sender.bind (·.remoteUsername)
  let username := target.username.or senderUsername
  let senderName := senderUsername.getD message.author.username
  { senderUsername := senderUsername
    username := username
    senderRequestable := senderUsername.map (Requestable.forIdentity · sender)
    requestable := username.map
      (Requestable.forIdentity · (if target.referenced then target.identity else sender))
    perspective := (Perspective.build senderName (username.getD senderName) asCode).showing shown target.referenced
    senderIdentity := sender
    mentionedIdentity := target.identity
    platformUser := shown
    analyticsIdentity := analytics
    mentioned := target.referenced }

def describeFetching (fetches : Fetches) (message : InboundMessage) (options : ResolverOptions)
    (sender : Option LocalIdentity) (target : Mentioned) : ResolvedMentions :=
  describeShowing (fetches.platformUser message options target)
    (fetches.analyticsIdentity options (target.username.or (sender.bind (·.remoteUsername))))
    message options.asCode sender target

/-- Sender and target of a message when the optional calls are answered so. -/
def resolveFetching (r : Resolver) (fetches : Fetches) (stores : Stores) (args : ParsedArgs)
    (message : InboundMessage) (options : ResolverOptions) : Except CommandError ResolvedMentions := do
  let sender ← orFail (stores.user message.author.id)
  let target ← r.mentioned stores args message options
  match r.missing options sender target with
  | some reason => .error (.unregistered reason)
  | none => .ok (describeFetching fetches message options sender target)

/-- A resolution is given the answers of the stores. -/
theorem resolve_eq_fetching (r : Resolver) (stores : Stores) (args : ParsedArgs) (message : InboundMessage)
    (options : ResolverOptions) :
    r.resolve stores args message options = r.resolveFetching stores.fetches stores args message options :=
  rfl

/-- All other questions are answered as before. -/
theorem resolveFetching_withFetches (r : Resolver) (fetches : Fetches) (stores : Stores) (args : ParsedArgs)
    (message : InboundMessage) (options : ResolverOptions) (outage : Option ServiceError) (service : Option Analytics) :
    r.resolveFetching fetches (stores.withFetches outage service) args message options =
      r.resolveFetching fetches stores args message options :=
  rfl

/-! ## What does not depend on them -/

theorem unfetched_describeShowing (shown : Option PlatformUser) (analytics : Option AnalyticsIdentity)
    (message : InboundMessage) (asCode : Bool) (sender : Option LocalIdentity) (target : Mentioned) :
    (describeShowing shown analytics message asCode sender target).unfetched =
      (describeShowing none none message asCode sender target).unfetched := by
  simp only [describeShowing, ResolvedMentions.unfetched, Perspective.unworded_showing]

theorem unfetched_describeFetching (fetches fetches' : Fetches) (message : InboundMessage)
    (options : ResolverOptions) (user analytics : Bool) (sender : Option LocalIdentity) (target : Mentioned) :
    (describeFetching fetches message (options.asking user analytics) sender target).unfetched =
      (describeFetching fetches' message options sender target).unfetched := by
  unfold describeFetching
  rw [unfetched_describeShowing, unfetched_describeShowing (fetches'.platformUser message options target)]
  rfl

theorem unfetched_resolveFetching (r : Resolver) (fetches fetches' : Fetches) (stores : Stores) (args : ParsedArgs)
    (message : InboundMessage) (options : ResolverOptions) (user analytics : Bool) :
    (r.resolveFetching fetches stores args message (options.asking user analytics)).map ResolvedMentions.unfetched =
      (r.resolveFetching fetches' stores args message options).map ResolvedMentions.unfetched := by
  -- no check reads either option
  have hmentioned : r.mentioned stores args message (options.asking user analytics) =
      r.mentioned stores args message options := rfl
  have hmissing : ∀ sender target, r.missing (options.asking user analytics) sender target =
      r.missing options sender target := fun _ _ => rfl
  unfold resolveFetching
  rw [hmentioned]
  cases orFail (stores.user message.author.id) with
  | error e => rfl
  | ok sender =>
    cases r.mentioned stores args message options with
    | error e => rfl
    | ok target =>
      simp only [bind, Except.bind, hmissing]
      cases r.missing options sender target with
      | some reason => rfl
      | none => exact congrArg Except.ok (unfetched_describeFetching fetches fetches' _ _ _ _ _ _)

/-- Resolutions under any answers to the optional calls, asked for or not, are the same up
    to what these show in: they fail alike, and say the same of sender and target. Those of
    the stores are among them, also when `fetchUser` fails and the analytics service is
    another or none. -/
theorem resolve_best_effort (r : Resolver) (stores : Stores) (args : ParsedArgs) (message : InboundMessage)
    (options : ResolverOptions) (user analytics : Bool) :
    r.resolve stores args message options = r.resolveFetching stores.fetches stores args message options ∧
      (∀ fetches : Fetches,
        (r.resolveFetching fetches stores args message (options.asking user analytics)).map ResolvedMentions.unfetched =
          (r.resolve stores args message options).map ResolvedMentions.unfetched) ∧
      ∀ outage service,
        (r.resolve (stores.withFetches outage service) args message (options.asking user analytics)).map
            ResolvedMentions.unfetched =
          (r.resolve stores args message options).map ResolvedMentions.unfetched := by
  refine ⟨resolve_eq_fetching r stores args message options, ?_, ?_⟩
  · intro fetches
    rw [resolve_eq_fetching r stores args message options]
    exact unfetched_resolveFetching r fetches stores.fetches stores args message options user analytics
  · intro outage service
    rw [resolve_eq_fetching, resolve_eq_fetching, resolveFetching_withFetches]
    exact unfetched_resolveFetching r _ stores.fetches stores args message options user analytics

end Resolver

end ChatBot
