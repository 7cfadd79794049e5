/-
  ChatBot.Proofs.Detail.Answers — answers that differ in the detail of errors.

  The detail of an error is the text that a service or the chat gives with a failure, and
  the text of an `unknown` error. States are alike when they differ in the details of
  failures to come and of errors already reported, and in nothing else (`State.Alike`).

  Asked in states that are alike, the gate and the resolver give the same answer or errors
  that differ in their detail (`check_alike`, `resolve_alike`), and the chat takes or
  refuses the same requests (`send_alike`, `present_alike`).
-/
import ChatBot.Pipeline.State
import ChatBot.Gate
import ChatBot.Proofs.Agreement

namespace ChatBot

open CommandError (orFail)

/-! ## Errors -/

namespace CommandError

def withoutDetail : CommandError → CommandError
  | .silent inner => .silent inner.withoutDetail
  | .unknown _ => .unknown ""
  | e => e

/-- The errors are the same but for the text of an internal failure. -/
def Alike (e e' : CommandError) : Prop := e.withoutDetail = e'.withoutDetail

variable {e e' : CommandError}

theorem Alike.refl (e : CommandError) : e.Alike e := rfl

theorem isClientFacing_withoutDetail (e : CommandError) : e.withoutDetail.isClientFacing = e.isClientFacing := by
  cases e <;> rfl

theorem isSilent_withoutDetail (e : CommandError) : e.withoutDetail.isSilent = e.isSilent := by
  cases e <;> rfl

theorem Alike.isClientFacing_eq (h : e.Alike e') : e.isClientFacing = e'.isClientFacing := by
  rw [← isClientFacing_withoutDetail e, ← isClientFacing_withoutDetail e', h]

theorem Alike.isSilent_eq (h : e.Alike e') : e.isSilent = e'.isSilent := by
  rw [← isSilent_withoutDetail e, ← isSilent_withoutDetail e', h]

theorem withoutDetail_of_told (hfacing : e.isClientFacing = true) (hsilent : e.isSilent = false) :
    e.withoutDetail = e := by
  cases e with
  | silent inner => cases hsilent
  | unknown message => cases hfacing
  | _ => rfl

/-- There is no detail in what the user is told. -/
theorem Alike.eq_of_told (h : e.Alike e') (hfacing : e.isClientFacing = true) (hsilent : e.isSilent = false) :
    e = e' := by
  have hself := withoutDetail_of_told hfacing hsilent
  rw [h.isClientFacing_eq] at hfacing
  rw [h.isSilent_eq] at hsilent
  rw [← hself, h, withoutDetail_of_told hfacing hsilent]

end CommandError

def ServiceError.withoutDetail : ServiceError → ServiceError
  | .unavailable service _ => .unavailable service ""
  | .invalidResponse service _ => .invalidResponse service ""

def ServiceError.Alike (e e' : ServiceError) : Prop := e.withoutDetail = e'.withoutDetail

def OutputError.withoutDetail : OutputError → OutputError
  | .sendFailed channel _ => .sendFailed channel ""
  | .reactionFailed messageId _ => .reactionFailed messageId ""

def OutputError.Alike (e e' : OutputError) : Prop := e.withoutDetail = e'.withoutDetail

theorem CommandError.ofOutput_alike (e e' : OutputError) : (ofOutput e).Alike (ofOutput e') := rfl

/-- Answers that are the same, or errors that are alike. -/
abbrev AnswersAlike {α : Type} (x y : Except CommandError α) : Prop := Agree CommandError.Alike Eq x y

theorem answersAlike_refl {α : Type} (x : Except CommandError α) : AnswersAlike x x := by
  cases x with
  | ok a => exact .ok rfl
  | error e => exact .error (.refl e)

theorem CommandError.orFail_alike {α : Type} {x y : Except ServiceError α} (h : Agree ServiceError.Alike Eq x y) :
    AnswersAlike (orFail x) (orFail y) := by
  cases h with
  | ok hab => exact .ok hab
  | error hed => exact .error rfl

/-! ## Stores -/

/-- The same calls fail, for reasons that are alike; all else is the same. -/
structure Stores.Alike (s t : Stores) : Prop where
  identities : s.identities = t.identities
  directory : s.directory = t.directory
  analytics : s.analytics = t.analytics
  gates : s.gates = t.gates
  outages : ∀ call, Option.Rel ServiceError.Alike (s.outages call) (t.outages call)

namespace Stores

variable {s t : Stores}

theorem ask_alike {α : Type} (h : s.Alike t) (call : ServiceCall) {a b : α} (hab : a = b) :
    Agree ServiceError.Alike Eq (s.ask call a) (t.ask call b) := by
  have houtage := h.outages call
  unfold ask
  generalize s.outages call = o at houtage
  generalize t.outages call = o' at houtage
  cases houtage with
  | some he => exact .error he
  | none => exact .ok hab

theorem user_alike (h : s.Alike t) (platformId : String) :
    Agree ServiceError.Alike Eq (s.user platformId) (t.user platformId) :=
  ask_alike h _ (by rw [h.identities])

theorem fetchUser_alike (h : s.Alike t) (platformId : String) :
    Agree ServiceError.Alike Eq (s.fetchUser platformId) (t.fetchUser platformId) := by
  unfold fetchUser
  rw [← h.directory]
  cases s.directory with
  | none => exact .ok rfl
  | some d => exact ask_alike h _ rfl

theorem findMember_alike (h : s.Alike t) (guild name : String) :
    Agree ServiceError.Alike Eq (s.findMember guild name) (t.findMember guild name) := by
  unfold findMember
  rw [← h.directory]
  cases s.directory with
  | none => exact .ok rfl
  | some d => exact ask_alike h _ rfl

theorem analyticsIdentity_eq (h : s.Alike t) (username : String) :
    s.analyticsIdentity username = t.analyticsIdentity username := by
  unfold analyticsIdentity
  rw [h.analytics]

/-- A call that begins to fail, or answers again. -/
theorem setOutage_alike (h : s.Alike t) (call : ServiceCall) {o o' : Option ServiceError}
    (ho : Option.Rel ServiceError.Alike o o') : (s.setOutage call o).Alike (t.setOutage call o') := by
  refine { h with outages := fun c => ?_ }
  unfold setOutage
  by_cases hc : c = call
  · simp only [if_pos hc]
    exact ho
  · simp only [if_neg hc]
    exact h.outages c

end Stores

/-! ## The gate -/

namespace Gate

variable {s t : Stores}

theorem checkEnabled_alike (h : s.Alike t) (guild : String) (command : CommandInfo) :
    AnswersAlike (checkEnabled s guild command) (checkEnabled t guild command) := by
  have hstatus := CommandError.orFail_alike (s.ask_alike h .disabledStatus
    (congrArg (·.status guild command.id.hex) h.gates))
  refine hstatus.bind ?_
  rintro status _ rfl
  exact answersAlike_refl _

theorem checkAllowed_alike (h : s.Alike t) (guild : String) (message : InboundMessage) (command : CommandInfo) :
    AnswersAlike (checkAllowed s guild message command) (checkAllowed t guild message command) := by
  have hchannels := CommandError.orFail_alike (s.ask_alike h .channels
    (congrArg (·.channelsOf guild command.id.hex) h.gates))
  have hrecords := CommandError.orFail_alike (s.ask_alike h .permissions
    (congrArg (·.permissionsOf guild command.id.hex) h.gates))
  refine hchannels.bind ?_
  rintro channels _ rfl
  split
  · exact answersAlike_refl _
  · refine hrecords.bind ?_
    rintro records _ rfl
    exact answersAlike_refl _

theorem checkEach_alike {f g : CommandInfo → Except CommandError Unit} (h : ∀ c, AnswersAlike (f c) (g c))
    (chain : List CommandInfo) : AnswersAlike (checkEach f chain) (checkEach g chain) := by
  induction chain with
  | nil => exact answersAlike_refl _
  | cons c cs ih => exact (h c).bind fun _ _ _ => ih

theorem check_alike (h : s.Alike t) (developers : List String) (command : CommandInfo) (parent : Option CommandInfo)
    (message : InboundMessage) :
    AnswersAlike (check developers s command parent message) (check developers t command parent message) := by
  unfold check
  simp only
  split
  · exact answersAlike_refl _
  split
  · exact answersAlike_refl _
  · rename_i guild _
    refine (checkEach_alike (fun c => checkEnabled_alike h guild c) _).bind fun _ _ _ => ?_
    split
    · exact answersAlike_refl _
    · exact checkEach_alike (fun c => checkAllowed_alike h guild message c) _

end Gate

/-! ## The resolver -/

namespace Resolver

variable {s t : Stores}

theorem ownerOf_alike (h : s.Alike t) (username : String) (options : ResolverOptions) :
    AnswersAlike (ownerOf s username options) (ownerOf t username options) := by
  unfold ownerOf
  split
  · exact CommandError.orFail_alike (s.ask_alike h _ (by rw [h.identities]))
  · exact answersAlike_refl _

theorem remoteTarget_alike (h : s.Alike t) (r : Resolver) (name : String) (options : ResolverOptions) :
    AnswersAlike (r.remoteTarget s name options) (r.remoteTarget t name options) := by
  refine (ownerOf_alike h name options).bind ?_
  rintro identity _ rfl
  exact answersAlike_refl _

theorem platformTarget_alike (h : s.Alike t) (platformId : String) (options : ResolverOptions) :
    AnswersAlike (platformTarget s platformId options) (platformTarget t platformId options) := by
  refine (CommandError.orFail_alike (s.user_alike h platformId)).bind ?_
  rintro identity _ rfl
  exact answersAlike_refl _

theorem platformIdFrom_alike (h : s.Alike t) (r : Resolver) (args : ParsedArgs) (message : InboundMessage)
    (options : ResolverOptions) :
    AnswersAlike (r.platformIdFrom s args message options) (r.platformIdFrom t args message options) := by
  unfold platformIdFrom
  rw [← h.directory]
  split
  · exact answersAlike_refl _
  split
  · exact answersAlike_refl _
  split
  · refine (CommandError.orFail_alike (s.findMember_alike h _ _)).bind ?_
    rintro member _ rfl
    exact answersAlike_refl _
  · exact answersAlike_refl _

theorem mentioned_alike (h : s.Alike t) (r : Resolver) (args : ParsedArgs) (message : InboundMessage)
    (options : ResolverOptions) :
    AnswersAlike (r.mentioned s args message options) (r.mentioned t args message options) := by
  unfold mentioned
  split
  · exact remoteTarget_alike h r _ options
  · refine (platformIdFrom_alike h r args message options).bind ?_
    rintro id _ rfl
    split
    · exact platformTarget_alike h _ options
    split
    · exact remoteTarget_alike h r _ options
    · exact answersAlike_refl _

/-- Who is shown does not depend on how the directory fails. -/
theorem platformUser_eq (h : s.Alike t) (message : InboundMessage) (options : ResolverOptions) (target : Mentioned) :
    platformUser s message options target = platformUser t message options target := by
  unfold platformUser
  split
  · rfl
  split
  · rfl
  · rename_i id _
    have huser := s.fetchUser_alike h id
    generalize s.fetchUser id = x at huser
    generalize t.fetchUser id = y at huser
    cases huser with
    | ok hab => exact hab
    | error hed => rfl

theorem describe_eq (h : s.Alike t) (message : InboundMessage) (options : ResolverOptions)
    (sender : Option LocalIdentity) (target : Mentioned) :
    describe s message options sender target = describe t message options sender target := by
  have hanalytics : ∀ username, analyticsIdentity s options username = analyticsIdentity t options username := by
    intro username
    unfold analyticsIdentity
    simp only [s.analyticsIdentity_eq h]
  unfold describe
  simp only [platformUser_eq h, hanalytics]

theorem resolve_alike (h : s.Alike t) (r : Resolver) (args : ParsedArgs) (message : InboundMessage)
    (options : ResolverOptions) :
    AnswersAlike (r.resolve s args message options) (r.resolve t args message options) := by
  refine (CommandError.orFail_alike (s.user_alike h message.author.id)).bind ?_
  rintro sender _ rfl
  refine (mentioned_alike h r args message options).bind ?_
  rintro target _ rfl
  rw [describe_eq h]
  exact answersAlike_refl _

end Resolver

/-! ## The chat -/

/-- The chat was shown the same, and refuses the same requests. -/
structure Output.Alike (o u : Output) : Prop where
  events : o.events = u.events
  delivered : o.delivered = u.delivered
  refusals : ∀ call, (o.refusals call).isSome = (u.refusals call).isSome

namespace Output

variable {o u : Output}

/-- The same request, with what it makes of two chats that are alike. -/
def Asks {α : Type} (ask : Output → Except OutputError α × Output) : Prop :=
  ∀ o u : Output, o.Alike u → Agree OutputError.Alike Eq (ask o).1 (ask u).1 ∧ (ask o).2.Alike (ask u).2

theorem send_alike (channel : String) (message : OutgoingMessage) : Asks fun o => o.send channel message := by
  intro o u h
  have hrefused := h.refusals .send
  dsimp only [send]
  cases ho : o.refusals .send with
  | some why =>
    cases hu : u.refusals .send with
    | some why' => exact ⟨.error rfl, h⟩
    | none => simp [ho, hu] at hrefused
  | none =>
    cases hu : u.refusals .send with
    | some why' => simp [ho, hu] at hrefused
    | none =>
      rw [h.delivered, h.events]
      exact ⟨.ok rfl, { h with events := rfl, delivered := rfl }⟩

theorem present_alike (call : OutputCall) {failure : String → OutputError} (event : OutputEvent)
    (hfailure : ∀ why why', (failure why).Alike (failure why')) : Asks fun o => o.present call failure event := by
  intro o u h
  have hrefused := h.refusals call
  dsimp only [present]
  cases ho : o.refusals call with
  | some why =>
    cases hu : u.refusals call with
    | some why' => exact ⟨.error (hfailure why why'), h⟩
    | none => simp [ho, hu] at hrefused
  | none =>
    cases hu : u.refusals call with
    | some why' => simp [ho, hu] at hrefused
    | none => exact ⟨.ok rfl, { h with events := congrArg (· ++ [event]) h.events }⟩

/-- Requests that begin to fail, or are taken again. -/
theorem setRefusal_alike (h : o.Alike u) (call : OutputCall) {refusal refusal' : Option String}
    (hrefusal : refusal.isSome = refusal'.isSome) : (o.setRefusal call refusal).Alike (u.setRefusal call refusal') := by
  refine { h with refusals := fun c => ?_ }
  unfold setRefusal
  by_cases hc : c = call
  · simp only [if_pos hc]
    exact hrefusal
  · simp only [if_neg hc]
    exact h.refusals c

end Output

end ChatBot
