/-
  ChatBot.Proofs.Pipeline.Delegation — which handler a message calls.

  A command hands over by the first of its delegation rules that holds on its own reading
  of the text (`Leads`), and every command on the way is asked for by the rollout and by
  the gate, as the one that was called is. The command that stays, and whose rules accept
  what it reads, is reached (`Reaches`).

  Proved: the handler of a command that is reached is called, its `prerun` first and its
  `run` only after that (`execute_marks`); a handler that is called belongs to a command
  that is reached (`execute_reaches`). Before that nothing changes what the decisions are
  taken from, so each of them can be told from the state that the message found.
-/
import ChatBot.Proofs.Pipeline.Frame

namespace ChatBot

open Steps

variable {bot : Bot} {base : Context} {stores : Stores} {today : Instant} {c : Command}

/-! ## The way to a command -/

/-- From a command to the one that runs in its place, by way of those that hand over. -/
inductive Leads (args : Command → ParsedArgs) : Command → List Command → Command → Prop
  | stay (c : Command) : Leads args c [] c
  | hand {c last : Command} {before : List Command} {earlier later : List ((ParsedArgs → Bool) × Command)}
      {rule : (ParsedArgs → Bool) × Command} :
      c.delegates = earlier ++ rule :: later → (∀ r ∈ earlier, r.1 (args c) = false) → rule.1 (args c) = true →
      Leads args rule.2 before last → Leads args c (c :: before) last

/-- What a command reads of the text of a message. -/
def Context.argsOf (base : Context) (today : Instant) (c : Command) : ParsedArgs := (base.reading c today).args

/-- The rollout lets a command through, and so does the gate. -/
structure Bot.Admits (bot : Bot) (base : Context) (stores : Stores) (c : Command) : Prop where
  rollout : Gate.passesRollout bot.config.developers c.info base.message = true
  gate : Gate.check bot.config.developers stores c.info base.parent base.message = .ok ()

structure Bot.Reaches (bot : Bot) (base : Context) (stores : Stores) (today : Instant) (first : Command)
    (before : List Command) (last : Command) : Prop where
  leads : Leads (base.argsOf today) first before last
  admitted : ∀ c ∈ before ++ [last], bot.Admits base stores c
  stays : ∀ rule ∈ last.delegates, rule.1 (base.argsOf today last) = false
  accepted : ∀ rule ∈ last.rules, rule.check (base.argsOf today last) = .ok ()

namespace Leads

variable {args : Command → ParsedArgs} {first last : Command} {before : List Command}

/-- Each command is a part of the one before it. -/
theorem sizeOf_last_lt (h : Leads args first before last) : ∀ c ∈ before, sizeOf last < sizeOf c := by
  have hle : sizeOf last ≤ sizeOf first ∧ ∀ c ∈ before, sizeOf last < sizeOf c := by
    induction h with
    | stay c => exact ⟨Nat.le_refl _, by simp⟩
    | @hand c last before earlier later rule hd _ _ _ ih =>
      have hlt : sizeOf rule.2 < sizeOf c := Command.sizeOf_delegate (by rw [hd]; simp)
      have hc : sizeOf last < sizeOf c := Nat.lt_of_le_of_lt ih.1 hlt
      refine ⟨Nat.le_of_lt hc, fun x hx => ?_⟩
      rcases List.mem_cons.mp hx with rfl | hx
      · exact hc
      · exact ih.2 x hx
  exact hle.2

theorem last_notMem (h : Leads args first before last) : last ∉ before :=
  fun hm => Nat.lt_irrefl _ (h.sizeOf_last_lt last hm)

end Leads

theorem ValidationRule.checkAll_eq_ok {rules : List ValidationRule} {args : ParsedArgs} :
    checkAll rules args = .ok () ↔ ∀ rule ∈ rules, rule.check args = .ok () := by
  induction rules with
  | nil => simp [checkAll]
  | cons rule rules ih =>
    rw [checkAll, List.forall_mem_cons]
    split
    · rename_i e he
      simp [he]
    · rename_i he
      rw [ih]
      exact ⟨fun h => ⟨he, h⟩, fun h => h.2⟩

def Mark.isCallOf (part : Handler.Part) : Mark → Bool
  | .called p _ _ => p == part
  | .returned .. => false

namespace Bot

/-! ## What is asked before a handler is called -/

/-- The marks of the one handler that is called: its `run` follows a `prerun` that ends well. -/
inductive Calls (d : Command) (ctx : Context) : List Mark → Prop
  | stopped (e : CommandError) : Calls d ctx [.called .prerun d ctx, .returned .prerun d (.error e)]
  | ran (result : Except CommandError Unit) :
    Calls d ctx [.called .prerun d ctx, .returned .prerun d (.ok ()), .called .run d ctx, .returned .run d result]

theorem call_marks (part : Handler.Part) (c : Command) (ctx : Context) (s : State) :
    (bot.call part c ctx).marks s = [.called part c ctx, .returned part c ((bot.call part c ctx).run s).1] := by
  have hquiet := (Program.exec_keeps_books bot ctx (c.handler.program part ctx)).marks s
  simp [call, hquiet]

theorem runHandler_rejected (ctx : Context) {e : CommandError}
    (h : ValidationRule.checkAll c.rules ctx.args = .error e) (s : State) : (bot.runHandler c ctx).marks s = [] := by
  simp only [runHandler, h]
  rw [(State.count_keeps_grounds _).marks_bind, (State.countFor_keeps_grounds _).marks_bind]
  rfl

theorem runHandler_accepted (ctx : Context) (h : ValidationRule.checkAll c.rules ctx.args = .ok ()) (s : State) :
    Calls c ctx ((bot.runHandler c ctx).marks s) := by
  simp only [runHandler, h]
  rw [(State.count_keeps_grounds _).marks_bind, (State.countFor_keeps_grounds _).marks_bind, Steps.marks_bind,
    call_marks]
  split
  · rename_i e he
    rw [he]
    exact .stopped e
  · rename_i he
    rw [he, call_marks]
    exact .ran _

/-! ## One command -/

theorem failWith_leave_marks (ctx : Context) (reaction : Option Nat) (e : CommandError) (s : State) :
    (bot.failWith ctx e >>= bot.leave ctx reaction).marks s = [] := by
  rw [(bot.failWith_keeps_grounds ctx e).marks_bind]
  exact (bot.leave_keeps_books ctx reaction _).marks _

theorem askGate_answer (ctx : Context) (s : State) : ((bot.askGate ctx).run s).1 =
    Gate.check bot.config.developers s.stores ctx.command ctx.parent ctx.message := by
  unfold askGate
  simp only [run_bind, run_get]
  split <;> rfl

/-- The gate is asked about what the message found. -/
theorem askGate_after_setUp (ctx : Context) (s : State) :
    ((bot.askGate ctx).run ((bot.setUp c ctx).run s).2).1 =
        Gate.check bot.config.developers s.stores ctx.command ctx.parent ctx.message ∧
      ((bot.askGate ctx).run ((bot.setUp c ctx).run s).2).2.grounds = s.grounds := by
  have hgrounds : ((bot.setUp c ctx).run s).2.grounds = s.grounds :=
    congrArg (fun k => k.2.1) ((bot.setUp_keeps c ctx).run s)
  exact ⟨by rw [askGate_answer, State.stores_of_grounds hgrounds], ((bot.askGate_keeps_grounds ctx).run _).trans hgrounds⟩

theorem execute_denied {s : State} (h : ¬ bot.Admits base s.stores c) :
    (bot.execute c (base.forDelegate c.info)).marks s = [] := by
  rw [execute]
  split
  · rw [(State.count_keeps_grounds _).marks_bind]
    rfl
  · rename_i hr
    rw [(bot.setUp_keeps ..).marks_bind, (bot.askGate_keeps_grounds _).marks_bind, (bot.askGate_after_setUp _ s).1]
    split
    · exact bot.failWith_leave_marks ..
    · rename_i hg
      exact absurd ⟨by simpa [Context.forDelegate] using hr, hg⟩ h

theorem withArgs_run (c : Command) (ctx : Context) (s : State) :
    (withArgs c ctx).run s = (ctx.reading c s.today, s) := rfl

/-- A command that hands over leaves everything to the other; one that stays runs its own handler. -/
theorem execute_admitted {s : State} (h : bot.Admits base s.stores c) : ∃ s' : State, s'.grounds = s.grounds ∧
    (bot.execute c (base.forDelegate c.info)).marks s = match c.delegateFor (base.argsOf s.today c) with
      | some d => (bot.execute d.2 (base.forDelegate d.2.info)).marks s'
      | none => (bot.runHandler c ((base.forDelegate c.info).reading c s.today)).marks s' := by
  obtain ⟨hanswer, hgrounds⟩ := bot.askGate_after_setUp (c := c) (base.forDelegate c.info) s
  have hgate := hanswer.trans h.gate
  rw [execute, if_neg (by simp [Context.forDelegate, h.rollout]), (bot.setUp_keeps ..).marks_bind,
    (bot.askGate_keeps_grounds _).marks_bind, hgate]
  generalize ((bot.askGate (base.forDelegate c.info)).run ((bot.setUp c (base.forDelegate c.info)).run s).2).2 = s₁
    at hgrounds ⊢
  have htoday : s₁.today = s.today := State.today_of_grounds hgrounds
  simp only [(withArgs_keeps_grounds _ _).marks_bind, withArgs_run, htoday]
  split
  · rename_i d hd
    rw [htoday] at hd
    rw [show c.delegateFor (base.argsOf s.today c) = some d from hd]
    have hcount := State.count_keeps_grounds .delegation
    refine ⟨((State.count .delegation).run s₁).2, (hcount.run s₁).trans hgrounds, ?_⟩
    rw [hcount.marks_bind, Steps.marks_bind, (bot.leave_keeps_books _ _ _).marks, List.append_nil]
    rfl
  · rename_i hd
    rw [htoday] at hd
    rw [show c.delegateFor (base.argsOf s.today c) = none from hd]
    refine ⟨s₁, hgrounds, ?_⟩
    rw [Steps.marks_bind]
    cases ((bot.runHandler c ((base.forDelegate c.info).reading c s.today)).run s₁).1 with
    | error e => rw [conclude, bot.failWith_leave_marks, List.append_nil]
    | ok u => rw [conclude, pure_def, done_bind, (bot.leave_keeps_books _ _ _).marks, List.append_nil]

/-! ## The way to a handler -/

/-- The first rule of a list that holds is the one that hands over. -/
theorem delegateFor_of_first {args : ParsedArgs} {earlier later : List ((ParsedArgs → Bool) × Command)}
    {rule : (ParsedArgs → Bool) × Command} (hd : c.delegates = earlier ++ rule :: later)
    (hno : ∀ r ∈ earlier, r.1 args = false) (hyes : rule.1 args = true) : c.delegateFor args = some rule := by
  rw [Command.delegateFor, hd]
  exact List.find?_eq_some_iff_append.mpr ⟨hyes, earlier, later, rfl, fun r hr => by simp [hno r hr]⟩

/-- The handler of a command that is reached is called. -/
theorem execute_marks {first last : Command} {before : List Command} {s : State}
    (h : bot.Reaches base s.stores s.today first before last) :
    Calls last ((base.forDelegate last.info).reading last s.today)
      ((bot.execute first (base.forDelegate first.info)).marks s) := by
  obtain ⟨leads, admitted, stays, accepted⟩ := h
  -- the state changes on the way, what the decisions are taken from does not
  suffices ∀ s' : State, s'.grounds = s.grounds → Calls last ((base.forDelegate last.info).reading last s.today)
      ((bot.execute first (base.forDelegate first.info)).marks s') from this s rfl
  induction leads with
  | stay c =>
    intro s' hs'
    obtain ⟨t, -, hmarks⟩ := execute_admitted (State.stores_of_grounds hs' ▸ admitted c (by simp))
    have hnone : c.delegateFor (base.argsOf s.today c) = none :=
      List.find?_eq_none.mpr fun rule hr => by simp [stays rule hr]
    rw [hmarks, State.today_of_grounds hs', hnone]
    exact runHandler_accepted ((base.forDelegate c.info).reading c s.today)
      (ValidationRule.checkAll_eq_ok.mpr accepted) t
  | @hand c last before earlier later rule hd hno hyes _ ih =>
    intro s' hs'
    obtain ⟨t, ht, hmarks⟩ := execute_admitted (State.stores_of_grounds hs' ▸ admitted c (by simp))
    rw [hmarks, State.today_of_grounds hs', delegateFor_of_first hd hno hyes]
    exact ih (fun x hx => admitted x (List.mem_cons_of_mem _ hx)) stays accepted t (ht.trans hs')

/-- A handler is called for a command that is reached only. -/
theorem execute_reaches (base : Context) (first : Command) {s : State}
    (h : (bot.execute first (base.forDelegate first.info)).marks s ≠ []) :
    ∃ before last, bot.Reaches base s.stores s.today first before last := by
  induction first using Command.delegation_induction generalizing s with
  | h c ih =>
    have hc : bot.Admits base s.stores c := not_imp_comm.mp execute_denied h
    obtain ⟨s', hgrounds, hmarks⟩ := execute_admitted hc
    rw [hmarks] at h
    cases hd : c.delegateFor (base.argsOf s.today c) with
    | none =>
      rw [hd] at h
      refine ⟨[], c, .stay c, by simpa using hc, ?_, ?_⟩
      · exact fun rule hr => by simpa using List.find?_eq_none.mp hd rule hr
      · refine ValidationRule.checkAll_eq_ok.mp ?_
        cases hv : ValidationRule.checkAll c.rules (base.argsOf s.today c) with
        | ok u => rfl
        | error e =>
          exact absurd (runHandler_rejected ((base.forDelegate c.info).reading c s.today) hv s') h
    | some d =>
      rw [hd] at h
      obtain ⟨before, last, leads, admitted, stays, accepted⟩ := ih d (Command.delegateFor_mem hd) h
      rw [State.today_of_grounds hgrounds] at leads stays accepted
      rw [State.stores_of_grounds hgrounds] at admitted
      obtain ⟨hyes, earlier, later, hsplit, hno⟩ := List.find?_eq_some_iff_append.mp hd
      refine ⟨c :: before, last, .hand hsplit (fun r hr => by simpa using hno r hr) hyes leads, ?_, stays, accepted⟩
      intro x hx
      rcases List.mem_cons.mp hx with rfl | hx
      · exact hc
      · exact admitted x hx

/-! ## Messages -/

/-- What a run of a message starts from, when it calls a command. -/
def Calling (bot : Bot) (message : InboundMessage) (found : Registry.Resolution) : Prop :=
  ∃ text, bot.invocationText message = some text ∧ bot.registry.resolve text = .ok found

theorem Calling.unique {message : InboundMessage} {found found' : Registry.Resolution} (h : bot.Calling message found)
    (h' : bot.Calling message found') : found' = found := by
  obtain ⟨text, htext, hfound⟩ := h
  obtain ⟨text', htext', hfound'⟩ := h'
  obtain rfl : text = text' := Option.some.inj (htext.symm.trans htext')
  exact Except.ok.inj (hfound'.symm.trans hfound)

theorem handle_calling {message : InboundMessage} {found : Registry.Resolution} (h : bot.Calling message found)
    (s : State) : ∃ s' : State, s'.grounds = s.grounds ∧ (bot.handle message).marks s =
      (bot.execute found.node.command (.ofResolution bot.config message found)).marks s' := by
  obtain ⟨text, htext, hfound⟩ := h
  have hcount := State.count_keeps_grounds .received
  refine ⟨((State.count .received).run s).2, hcount.run s, ?_⟩
  simp only [handle, htext, hfound]
  exact hcount.marks_bind _ s

theorem handle_not_calling {message : InboundMessage} (h : ∀ found, ¬ bot.Calling message found) (s : State) :
    (bot.handle message).marks s = [] := by
  unfold handle
  split
  · rfl
  rename_i text htext
  split
  · exact (bot.announceUnknown_keeps_books ..).marks s
  · rename_i found hfound
    exact absurd ⟨text, htext, hfound⟩ (h found)

/-- A handler is called for the command that is reached, and for no other. -/
theorem handle_marks (bot : Bot) (message : InboundMessage) (s : State) :
    ((bot.handle message).marks s ≠ [] → ∃ found before last, bot.Calling message found ∧
      bot.Reaches (.ofResolution bot.config message found) s.stores s.today found.node.command before last) ∧
    ∀ found before last, bot.Calling message found →
      bot.Reaches (.ofResolution bot.config message found) s.stores s.today found.node.command before last →
      Calls last (((Context.ofResolution bot.config message found).forDelegate last.info).reading last s.today)
        ((bot.handle message).marks s) := by
  refine ⟨fun h => ?_, fun found before last hfound hreach => ?_⟩
  · by_cases hc : ∃ found, bot.Calling message found
    · obtain ⟨found, hfound⟩ := hc
      obtain ⟨s', hs', hmarks⟩ := bot.handle_calling hfound s
      rw [hmarks] at h
      obtain ⟨before, last, hreach⟩ := execute_reaches (.ofResolution bot.config message found) _ h
      rw [State.stores_of_grounds hs', State.today_of_grounds hs'] at hreach
      exact ⟨found, before, last, hfound, hreach⟩
    · exact absurd (handle_not_calling (not_exists.mp hc) s) h
  · obtain ⟨s', hs', hmarks⟩ := bot.handle_calling hfound s
    rw [← State.stores_of_grounds hs', ← State.today_of_grounds hs'] at hreach
    rw [hmarks, ← State.today_of_grounds hs']
    exact execute_marks hreach

/-- At most one handler's `run` is called for a message. If it is that of `d`, then `d` was
    reached from the command that the text names, its `prerun` ended well just before, and
    nothing was called of the commands on the way. -/
theorem handle_runs_last (bot : Bot) (message : InboundMessage) (s : State) :
    ((bot.handle message).marks s).countP (·.isCallOf .run) ≤ 1 ∧
      ∀ (d : Command) (ctx : Context), .called .run d ctx ∈ (bot.handle message).marks s →
        ∃ found before, bot.Calling message found ∧
          bot.Reaches (.ofResolution bot.config message found) s.stores s.today found.node.command before d ∧
          ctx = ((Context.ofResolution bot.config message found).forDelegate d.info).reading d s.today ∧
          [.called .prerun d ctx, .returned .prerun d (.ok ()), .called .run d ctx] <+: (bot.handle message).marks s ∧
          ∀ c ∈ before, ∀ part ctx', .called part c ctx' ∉ (bot.handle message).marks s := by
  obtain ⟨hreaches, hcalls⟩ := bot.handle_marks message s
  generalize (bot.handle message).marks s = marks at hreaches hcalls ⊢
  by_cases h : marks = []
  · simp [h]
  obtain ⟨found, before, last, hfound, hreach⟩ := hreaches h
  have hlast := hreach.leads.last_notMem
  cases hcalls found before last hfound hreach with
  | stopped e => simp [Mark.isCallOf]
  | ran result =>
    refine ⟨by simp [Mark.isCallOf], fun d ctx hd => ?_⟩
    obtain ⟨rfl, rfl⟩ : d = last ∧ ctx = _ := by simpa using hd
    refine ⟨found, before, hfound, hreach, rfl, by simp, fun c hc part ctx' hm => ?_⟩
    have : c = d := by
      rcases part with _ | _ <;> simp at hm <;> exact hm.1
    exact hlast (this ▸ hc)

end Bot

end ChatBot
