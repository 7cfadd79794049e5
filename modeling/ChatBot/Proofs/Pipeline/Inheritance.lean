/-
  ChatBot.Proofs.Pipeline.Inheritance — which restrictions of a parent bind its children.

  The gate asks about the command and about the parent under which it was called, and each
  of its questions is about one of the two. So it opens to a child exactly when it opens to
  the child and to the parent, each called by itself (`check_iff_each`): a parent that is
  for developers, disabled or closed to the channel or the author closes its children too.
  The rollout is asked about the command alone. `handle_calls_child` puts the two together:
  the handler of a child is called whether its parent is rolled out or not.
-/
import ChatBot.Proofs.Gate.History
import ChatBot.Proofs.Pipeline.Delegation
import ChatBot.Proofs.Registry.Names

namespace ChatBot

open Steps

/-! ## The gate, one command at a time -/

namespace Gate

variable {developers : List String} {stores : Stores} {command : CommandInfo} {parent : Option CommandInfo}
  {message : InboundMessage}

theorem cleared_iff_each {chain : List CommandInfo} :
    Cleared developers chain message ↔ ∀ c ∈ chain, Cleared developers [c] message := by
  unfold Cleared
  by_cases hd : message.author.id ∈ developers
  · simp [hd]
  · simp [hd]

/-- The gate opens to a command under its parent when it opens to either by itself. -/
theorem check_iff_each : check developers stores command parent message = .ok () ↔
    ∀ c ∈ command :: parent.toList, check developers stores c none message = .ok () := by
  simp only [check_eq_ok_iff, Option.toList_none, List.mem_singleton, forall_eq]
  rw [cleared_iff_each]
  constructor
  · intro ⟨hcleared, hopen⟩ c hc
    exact ⟨hcleared c hc, fun guild hg => hopen guild hg c hc⟩
  · intro h
    exact ⟨fun c hc => (h c hc).1, fun guild hg c hc => (h c hc).2 guild hg⟩

end Gate

/-! ## Children -/

/-- The rollout lets a command through that is called by itself, and so does the gate. -/
structure Bot.Opens (bot : Bot) (stores : Stores) (message : InboundMessage) (c : Command) : Prop where
  rollout : Gate.passesRollout bot.config.developers c.info message = true
  gate : Gate.check bot.config.developers stores c.info none message = .ok ()

namespace Bot

section Children

variable {bot : Bot} {message : InboundMessage} {found : Registry.Resolution} {c p : Command} {stores : Stores}

/-- A child is admitted when it is by itself and the gate opens to its parent. -/
theorem admits_child (hnode : found.node = .child c p) :
    bot.Admits (.ofResolution bot.config message found) stores c ↔
      bot.Opens stores message c ∧ Gate.check bot.config.developers stores p.info none message = .ok () := by
  have hparent : (Context.ofResolution bot.config message found).parent = some p.info := by
    rw [Context.ofResolution, hnode]
    rfl
  have hgate : Gate.check bot.config.developers stores c.info (some p.info) message = .ok () ↔
      Gate.check bot.config.developers stores c.info none message = .ok () ∧
        Gate.check bot.config.developers stores p.info none message = .ok () := by
    rw [Gate.check_iff_each]
    simp
  constructor
  · intro ⟨hrollout, hcheck⟩
    rw [hparent] at hcheck
    obtain ⟨hown, hparents⟩ := hgate.mp hcheck
    exact ⟨⟨hrollout, hown⟩, hparents⟩
  · intro ⟨⟨hrollout, hown⟩, hparents⟩
    refine ⟨hrollout, ?_⟩
    rw [hparent]
    exact hgate.mpr ⟨hown, hparents⟩

section Reaches

variable {base : Context} {today : Instant} {before : List Command} {last : Command}

/-- What is reached without delegation was called itself. -/
theorem reaches_self (h : bot.Reaches base stores today last before last) : before = [] := by
  have hlast := h.leads.last_notMem
  cases h.leads with
  | stay c => rfl
  | hand hd hno hyes hleads => exact absurd List.mem_cons_self hlast

/-- Whatever is reached, the command that was called was admitted. -/
theorem admits_of_reaches (h : bot.Reaches base stores today c before last) : bot.Admits base stores c := by
  cases h.leads with
  | stay c => exact h.admitted c (by simp)
  | hand hd hno hyes hleads => exact h.admitted c (by simp)

end Reaches

section Calls

variable {d : Command} {ctx : Context} {marks : List Mark}

theorem Calls.called (h : Calls d ctx marks) : .called .prerun d ctx ∈ marks := by
  cases h with
  | stopped e => exact List.mem_cons_self
  | ran result => exact List.mem_cons_self

/-- All that is called is called of one command, and sees the same. -/
theorem Calls.called_eq (h : Calls d ctx marks) {part : Handler.Part} {c : Command} {ctx' : Context}
    (hc : .called part c ctx' ∈ marks) : c = d ∧ ctx' = ctx := by
  cases h with
  | stopped e =>
    have hcall : (part = .prerun ∧ c = d ∧ ctx' = ctx) := by simpa using hc
    exact hcall.2
  | ran result =>
    have hcall : (part = .prerun ∧ c = d ∧ ctx' = ctx) ∨ (part = .run ∧ c = d ∧ ctx' = ctx) := by simpa using hc
    rcases hcall with hcall | hcall <;> exact hcall.2

end Calls

/-- The handler of a child that a text calls under its parent is called exactly when the
    rollout and the gate let the child through by itself, the gate is open to the parent,
    no delegate takes over and every rule accepts what is read. The rollout of the parent
    is not asked. When the gate is closed to the parent nothing is called at all. -/
theorem handle_calls_child (hfound : bot.Calling message found) (hnode : found.node = .child c p) (s : State) :
    let args := (Context.ofResolution bot.config message found).argsOf s.today c
    ((∃ ctx, .called .prerun c ctx ∈ (bot.handle message).marks s) ↔
      bot.Opens s.stores message c ∧ Gate.check bot.config.developers s.stores p.info none message = .ok () ∧
        (∀ rule ∈ c.delegates, rule.1 args = false) ∧ ∀ rule ∈ c.rules, rule.check args = .ok ()) ∧
      (Gate.check bot.config.developers s.stores p.info none message ≠ .ok () → (bot.handle message).marks s = []) := by
  intro args
  have hcommand : found.node.command = c := by rw [hnode]; rfl
  obtain ⟨hreaches, hcalls⟩ := bot.handle_marks message s
  -- whatever is called was reached from the child
  have hchild : (bot.handle message).marks s ≠ [] → ∃ before last,
      bot.Reaches (.ofResolution bot.config message found) s.stores s.today c before last := by
    intro hne
    obtain ⟨found', before, last, hfound', hreach⟩ := hreaches hne
    obtain rfl := hfound.unique hfound'
    exact ⟨before, last, hcommand ▸ hreach⟩
  refine ⟨⟨?_, ?_⟩, ?_⟩
  · intro ⟨ctx, hctx⟩
    obtain ⟨before, last, hreach⟩ := hchild (List.ne_nil_of_mem hctx)
    obtain rfl : c = last := ((hcalls found before last hfound (hcommand.symm ▸ hreach)).called_eq hctx).1
    obtain rfl := reaches_self hreach
    obtain ⟨hopens, hgate⟩ := (admits_child hnode).mp (hreach.admitted c (by simp))
    exact ⟨hopens, hgate, hreach.stays, hreach.accepted⟩
  · intro ⟨hopens, hgate, hstays, haccepted⟩
    have hreach : bot.Reaches (.ofResolution bot.config message found) s.stores s.today c [] c := by
      refine ⟨.stay c, fun c' hc' => ?_, hstays, haccepted⟩
      obtain rfl : c' = c := by simpa using hc'
      exact (admits_child hnode).mpr ⟨hopens, hgate⟩
    exact ⟨_, (hcalls found [] c hfound (hcommand.symm ▸ hreach)).called⟩
  · intro hclosed
    by_contra hne
    obtain ⟨before, last, hreach⟩ := hchild hne
    exact hclosed ((admits_child hnode).mp (admits_of_reaches hreach)).2

end Children

/-! ### A parent that is not rolled out -/

namespace Preview

def importRatings : Command := .simple (.make "import" "import") (.ofRun fun ctx => .say ctx "imported")

/-- Only one server has it. -/
def rym : ParentCommand :=
  ⟨.simple { CommandInfo.make "rym" "rym" with rollout := some (.make ["beta"] none) } (.ofRun fun _ => .done),
    [importRatings], none, [], none⟩

def bot : Bot := ⟨.ofOffers [.parent rym], Config.standard, []⟩

/-- Another server asks for it. -/
def message : InboundMessage := ⟨"m", "!rym import", ⟨"1", "joe", none, false⟩, some "g", "c", [], none, []⟩

def found : Registry.Resolution := .below "rym import" (.parent rym) none

def start : State := .initial .empty 0

/-- The same state, with the parent disabled. -/
def disabled : State := start.mapGates (·.disable "g" rym.command.id.hex false)

theorem registered : Registry.ofOffers [.parent rym] = Registry.empty.add (.parent rym) := by
  set_option maxRecDepth 2000 in
  exact Registry.offer_accepted ⟨by decide, by decide, by with_unfolding_all decide, by decide, by decide⟩

theorem calling : bot.Calling message found := by
  refine ⟨"rym import", by decide, Registry.resolve_eq_ok.mpr ⟨"rym", .parent rym, none, rfl, ?_, rfl⟩⟩
  show (Registry.ofOffers [.parent rym]).matchFirst "rym" = _
  rw [registered]
  rfl

theorem opens_import : bot.Opens start.stores message importRatings := ⟨by decide, rfl⟩

theorem not_opens_rym : ¬ bot.Opens start.stores message rym.command := fun h => absurd h.rollout (by decide)

end Preview

open Preview in
/-- The child is called where its parent is not rolled out; disabling the parent stops it. -/
theorem handle_calls_import : bot.Calling message found ∧ found.node = .child importRatings rym.command ∧
    (∃ ctx, .called .prerun importRatings ctx ∈ (bot.handle message).marks start) ∧
      (bot.handle message).marks disabled = [] := by
  have hclosed : Gate.check bot.config.developers disabled.stores rym.command.info none message ≠ .ok () := by
    set_option maxRecDepth 2000 in
    with_unfolding_all decide
  obtain ⟨hcalled, -⟩ := handle_calls_child calling rfl start
  obtain ⟨-, hstopped⟩ := handle_calls_child calling rfl disabled
  refine ⟨calling, rfl, hcalled.mpr ⟨opens_import, rfl, ?_, ?_⟩, hstopped hclosed⟩
  · simp [importRatings, Command.simple]
  · simp [importRatings, Command.simple]

open Preview in
/-- So what keeps a parent from being called does not always keep its children. -/
theorem not_handle_stops_child : ¬ ∀ (bot : Bot) (message : InboundMessage) (found : Registry.Resolution)
    (c p : Command) (s : State), bot.Calling message found → found.node = .child c p →
      (∀ call, s.stores.outages call = none) → ¬ bot.Opens s.stores message p →
      ∀ ctx, .called .prerun c ctx ∉ (bot.handle message).marks s := by
  intro h
  have hreach : bot.Reaches (.ofResolution bot.config message found) start.stores start.today importRatings []
      importRatings := by
    refine ⟨.stay _, fun c hc => ?_, ?_, ?_⟩
    · obtain rfl : c = importRatings := by simpa using hc
      exact (admits_child rfl).mpr ⟨opens_import, rfl⟩
    · simp [importRatings, Command.simple]
    · simp [importRatings, Command.simple]
  have hcalls := (bot.handle_marks message start).2 found [] importRatings calling hreach
  have hnever := h bot message found importRatings rym.command start calling rfl (fun _ => rfl) not_opens_rym
  exact hnever _ hcalls.called

end Bot

end ChatBot
