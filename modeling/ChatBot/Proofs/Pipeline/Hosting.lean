/-
  ChatBot.Proofs.Pipeline.Hosting — hooks as tasks of their own, beside the runs that start them.

  A host takes every hook out of the state in the step that starts it, and keeps it as a
  task. A task goes ahead at any moment, before or after its run has ended, and the services
  answer it in any way (`HookAnswers`). A run that lets hooks finish finds none and goes on.
-/
import Mathlib.Algebra.GroupWithZero.Nat
import Mathlib.Data.List.Perm.Basic
import ChatBot.Proofs.Pipeline.HookRuns

namespace ChatBot

open Steps

/-! ## Runs that a host can serve -/

/-- A step that neither reads nor writes what is for the hooks, but may start some. -/
structure Plain (change : State → State) (s : State) : Prop where
  bare : (change s).bare = { change s.bare with started := [] }
  side : (change s).hookSide = { s.hookSide with started := s.started ++ (change s.bare).started }

theorem Plain.started {change : State → State} {s : State} (h : Plain change s) (hs : s.started = []) :
    (change s).started = (change s.bare).started := by
  have hside : (change s).started = s.started ++ (change s.bare).started := congrArg HookSide.started h.side
  rwa [hs, List.nil_append] at hside

variable {α β : Type}

/-- After the hooks `l` were started, every step is plain or lets the hooks finish, and `Q` holds of all the hooks
    that are started and of the result. -/
inductive Hosted (Q : List StartedHook → α → Prop) : List StartedHook → Act α → Prop
  | done {l : List StartedHook} {a : α} : Q l a → Hosted Q l (.done a)
  | mark {l : List StartedHook} {entry : Mark} {next : Act α} : Hosted Q l next → Hosted Q l (.mark entry next)
  | step {l : List StartedHook} {change : State → State} {next : State → Act α} :
    (∀ s, Plain change s) → (∀ s, next s = next s.bare) →
    (∀ s, s.stores.analytics.isSome → Hosted Q (l ++ (change s.bare).started) (next s)) →
    Hosted Q l (.step change next)
  | settle {l : List StartedHook} {next : Act α} : Hosted Q l next → Hosted Q l (State.settle >>= fun _ => next)

variable {Q Q' : List StartedHook → α → Prop} {l : List StartedHook} {x : Act α}

theorem Hosted.bind {Q : List StartedHook → β → Prop} {k : α → Act β}
    (h : Hosted (fun l a => Hosted Q l (k a)) l x) : Hosted Q l (x >>= k) := by
  induction h with
  | done h => exact h
  | mark _ ih => exact .mark ih
  | step hplain hnext _ ih => exact .step hplain (fun s => congrArg (· >>= k) (hnext s)) ih
  | settle _ ih =>
    rw [bind_assoc]
    exact .settle ih

theorem Hosted.mono (h : Hosted Q l x) (hQ : ∀ l a, Q l a → Q' l a) : Hosted Q' l x := by
  induction h with
  | done h => exact .done (hQ _ _ h)
  | mark _ ih => exact .mark ih
  | step hplain hnext _ ih => exact .step hplain hnext ih
  | settle _ ih => exact .settle ih

/-- No hook is started. -/
def Quiet (x : Act α) : Prop := ∀ l, Hosted (fun l' _ => l' = l) l x

theorem Quiet.hosted (h : Quiet x) (hQ : ∀ a, Q l a) : Hosted Q l x := by
  refine (h l).mono fun l' a hl => ?_
  rw [hl]
  exact hQ a

theorem Quiet.bind {k : α → Act β} (h : Quiet x) (hk : ∀ a, Quiet (k a)) : Quiet (x >>= k) :=
  fun l => .bind (h.hosted fun a => hk a l)

theorem quiet_done (a : α) : Quiet (.done a) := fun _ => .done rfl

theorem quiet_tell (entry : Mark) : Quiet (Steps.tell entry) := fun _ => .mark (.done rfl)

theorem quiet_settle : Quiet State.settle := by
  intro l
  have h : Hosted (fun l' (_ : Unit) => l' = l) l (State.settle >>= fun _ => .done ()) := .settle (.done rfl)
  rwa [show (State.settle >>= fun _ => .done ()) = State.settle from bind_done _] at h

theorem quiet_modifyGet {f : State → α × State} (hbare : ∀ s, (f s).2.bare = (f s.bare).2)
    (hside : ∀ s, (f s).2.hookSide = s.hookSide) (hvalue : ∀ s, (f s).1 = (f s.bare).1) :
    Quiet (MonadStateOf.modifyGet f : Act α) := by
  have hnone : ∀ s : State, (f s.bare).2.started = [] := fun s => by rw [← hbare]; rfl
  intro l
  refine .step (fun s => ⟨?_, ?_⟩) (fun s => congrArg _ (hvalue s)) fun s _ => .done ?_
  · show (f s).2.bare = { (f s.bare).2 with started := [] }
    rw [← hbare]
    rfl
  · show (f s).2.hookSide = { s.hookSide with started := s.started ++ (f s.bare).2.started }
    rw [hnone, List.append_nil, hside]
    rfl
  · show l ++ (f s.bare).2.started = l
    rw [hnone, List.append_nil]

theorem quiet_modify {f : State → State} (hbare : ∀ s, (f s).bare = f s.bare)
    (hside : ∀ s, (f s).hookSide = s.hookSide) : Quiet (modify f : Act PUnit) :=
  quiet_modifyGet (f := fun s => ((), f s)) hbare hside fun _ => rfl

/-- What is read is not what hooks write. -/
theorem hosted_get {k : State → Act α} (hread : ∀ s, k s = k s.bare) (hk : ∀ s, Hosted Q l (k s)) :
    Hosted Q l ((get : Act State) >>= k) := by
  have hplain : ∀ s : State, Plain id s := by
    refine fun s => ⟨rfl, ?_⟩
    show s.hookSide = { s.hookSide with started := s.started ++ [] }
    rw [List.append_nil]
    rfl
  refine .step hplain hread fun s _ => ?_
  show Hosted Q (l ++ []) (k s)
  rw [List.append_nil]
  exact hk s

theorem quiet_get {k : State → Act α} (hread : ∀ s, k s = k s.bare) (hk : ∀ s, Quiet (k s)) :
    Quiet ((get : Act State) >>= k) :=
  fun l => hosted_get hread fun s => hk s l

theorem quiet_forM {l : List β} {k : β → Act PUnit} (h : ∀ b ∈ l, Quiet (k b)) : Quiet (l.forM k) := by
  induction l with
  | nil => exact quiet_done _
  | cons b l ih => exact (h b List.mem_cons_self).bind fun _ => ih fun c hc => h c (List.mem_cons_of_mem b hc)

/-- A step of a run that a host can serve, in a state that no hook waits in. To let the hooks finish is such a
    step: there are none. -/
theorem Hosted.go {change : State → State} {next : State → Act α} (h : Hosted Q l (.step change next)) {s : State}
    (hs : s.started = []) (ha : s.stores.analytics.isSome) :
    Plain change s ∧ (∀ t, t.bare = s.bare → t.started = [] → next t = next s) ∧
      Hosted Q (l ++ (change s.bare).started) (next s) := by
  generalize hx : Steps.step change next = x at h
  cases h with
  | done => cases hx
  | mark => cases hx
  | step hplain hnext hhosted =>
    obtain ⟨rfl, rfl⟩ := Steps.step.inj hx
    exact ⟨hplain s, fun t ht _ => by rw [hnext, ht, ← hnext], hhosted s ha⟩
  | @settle _ k hk =>
    have hk' : ∀ t : State, t.started = [] → next t = k := by
      intro t ht
      obtain ⟨-, hnext⟩ := Steps.step.inj hx
      rw [hnext]
      show t.started.forM State.runHook >>= (fun _ => k) = k
      rw [ht]
      rfl
    obtain ⟨rfl, -⟩ := Steps.step.inj hx
    refine ⟨⟨rfl, ?_⟩, fun t _ ht => by rw [hk' t ht, hk' s hs], ?_⟩
    · show { s.hookSide with started := [] } = { s.hookSide with started := s.started ++ [] }
      rw [hs]
      rfl
    · rw [hk' s hs]
      show Hosted Q (l ++ []) k
      rwa [List.append_nil]

theorem Hosted.ended {a : α} (h : Hosted Q l (.done a)) : Q l a := by
  generalize hx : Steps.done a = x at h
  cases h with
  | done ha =>
    obtain rfl := Steps.done.inj hx
    exact ha
  | mark => cases hx
  | step => cases hx
  | settle => cases hx

theorem Hosted.unmark {entry : Mark} {next : Act α} (h : Hosted Q l (.mark entry next)) : Hosted Q l next := by
  generalize hx : Steps.mark entry next = x at h
  cases h with
  | done => cases hx
  | mark hnext =>
    obtain ⟨-, rfl⟩ := Steps.mark.inj hx
    exact hnext
  | step => cases hx
  | settle => cases hx

/-! ## The host -/

/-- What is left of a run, and the hooks that it has started. -/
structure HostedRun (α : Type) where
  message : InboundMessage
  rest : Act α
  started : List StartedHook

structure Host (α : Type) where
  state : State
  /-- In the order of arrival. -/
  runs : List (HostedRun α)
  /-- The hooks that have not gone ahead yet. -/
  tasks : List StartedHook
  /-- The hooks that have. -/
  log : List HookRun

/-- What others do to the state; what is for the hooks they neither read nor write. -/
structure Bystander where
  change : State → State
  bare : ∀ s, (change s).bare = change s.bare
  side : ∀ s, (change s).hookSide = s.hookSide

namespace Host

inductive Event where
  | arrive (message : InboundMessage)
  /-- A run makes its next step. -/
  | go (run : Nat)
  | hook (task : Nat) (answers : HookAnswers)
  | others (bystander : Bystander)

def Event.isHook : Event → Bool
  | .hook .. => true
  | _ => false

variable (serve : InboundMessage → Act α)

/-- The hooks that a step starts are tasks from then on. -/
def stepped (h : Host α) (n : Nat) (r : HostedRun α) (change : State → State) (next : State → Act α) : Host α where
  state := { change h.state with started := [] }
  runs := h.runs.set n ⟨r.message, next h.state, r.started ++ (change h.state).started⟩
  tasks := h.tasks ++ (change h.state).started
  log := h.log

def after (h : Host α) : Event → Host α
  | .arrive message => { h with runs := h.runs ++ [⟨message, serve message, []⟩] }
  | .go n => match h.runs[n]? with
    | some r => match r.rest with
      | .step change next => h.stepped n r change next
      | .mark _ next => { h with runs := h.runs.set n { r with rest := next } }
      | .done _ => h
    | none => h
  | .hook k answers => match h.tasks[k]? with
    | some task => { h with
      state := task.goAhead answers h.state
      tasks := h.tasks.eraseIdx k
      log := h.log ++ [task.answered answers h.state.stores] }
    | none => h
  | .others bystander => { h with state := bystander.change h.state }

/-- What a course of events makes of a state in which no message is in hand. -/
def ofEvents (s : State) (events : List Event) : Host α := events.foldl (after serve) ⟨s, [], [], []⟩

/-- How a message ended, by the order of arrival. -/
def result? (h : Host α) (n : Nat) : Option α := h.runs[n]?.bind (·.rest.result?)

/-- No run is in flight, and every hook has gone ahead. -/
def isIdle (h : Host α) : Bool := h.runs.all (·.rest.isDone) && h.tasks.isEmpty

/-! ### What every course keeps -/

end Host

/-- What hooks make of a state in which none waits. -/
def HookSide.ofLog (s : State) (log : List HookRun) : HookSide where
  synced := s.hookSide.synced.map (· ++ log.filterMap (·.accepted?))
  failures := s.metrics.hookFailures + (log.map (·.failures)).sum
  traces := s.hookTraces ++ log.flatMap (·.traces)
  started := []

theorem HookSide.ofLog_nil {s : State} (hs : s.started = []) : .ofLog s [] = s.hookSide := by
  simp only [ofLog, List.filterMap_nil, List.map_nil, List.sum_nil, List.flatMap_nil, List.append_nil, Option.map_id',
    Nat.add_zero]
  exact congrArg (HookSide.mk _ _ _) hs.symm

theorem HookSide.ofLog_append (s : State) (log : List HookRun) (r : HookRun) : ofLog s (log ++ [r]) =
    ⟨(ofLog s log).synced.map (· ++ r.accepted?.toList), (ofLog s log).failures + r.failures,
      (ofLog s log).traces ++ r.traces, []⟩ := by
  have haccepted : (log ++ [r]).filterMap (·.accepted?) = log.filterMap (·.accepted?) ++ r.accepted?.toList := by
    rw [List.filterMap_append]
    cases h : r.accepted? <;> simp [h]
  simp only [ofLog, haccepted, Option.map_map, Function.comp_def, List.append_assoc, List.map_append, List.sum_append,
    List.flatMap_append, List.map_singleton, List.sum_singleton, List.flatMap_singleton, Nat.add_assoc]

namespace Host

/-- All that hooks write is what those that went ahead made of it, and the hooks that were started are those that
    went ahead and those that have not. -/
structure Sound (Q : InboundMessage → List StartedHook → α → Prop) (s : State) (h : Host α) : Prop where
  hosted : ∀ r ∈ h.runs, Hosted (Q r.message) r.started r.rest
  side : h.state.hookSide = .ofLog s h.log
  tasks : (h.log.map (·.task) ++ h.tasks).Perm (h.runs.flatMap (·.started))

section Courses

variable {serve} {Q : InboundMessage → List StartedHook → α → Prop} {s : State} {h h' : Host α}

theorem Sound.started (hsound : Sound Q s h) : h.state.started = [] := congrArg HookSide.started hsound.side

theorem Sound.present (hsound : Sound Q s h) (hs : s.stores.analytics.isSome) : h.state.stores.analytics.isSome := by
  have hsynced : h.state.stores.analytics.map (·.synced) = _ := congrArg HookSide.synced hsound.side
  rw [← Option.isSome_map (f := fun a : Analytics => a.synced), hsynced]
  simpa [HookSide.ofLog, State.hookSide] using hs

/-- What one of them adds to its list is added to all lists together. -/
theorem flatMap_set_perm {γ : Type} {l : List β} {f : β → List γ} {n : Nat} {b b' : β} {more : List γ}
    (hb : l[n]? = some b) (hmore : f b' = f b ++ more) : ((l.set n b').flatMap f).Perm (l.flatMap f ++ more) := by
  induction l generalizing n with
  | nil => cases hb
  | cons c l ih =>
    cases n with
    | zero =>
      obtain rfl : c = b := Option.some.inj hb
      show (f b' ++ l.flatMap f).Perm (f c ++ l.flatMap f ++ more)
      rw [hmore, List.append_assoc, List.append_assoc]
      exact List.perm_append_comm.append_left (f c)
    | succ n =>
      show (f c ++ (l.set n b').flatMap f).Perm (f c ++ l.flatMap f ++ more)
      rw [List.append_assoc]
      exact (ih hb).append_left (f c)

/-- A run goes on; the hooks that it started since are tasks. -/
theorem Sound.set (hsound : Sound Q s h) {n : Nat} {r r' : HostedRun α} {state : State} {more : List StartedHook}
    (hr : h.runs[n]? = some r) (hstarted : r'.started = r.started ++ more)
    (hhosted : Hosted (Q r'.message) r'.started r'.rest) (hside : state.hookSide = h.state.hookSide) :
    Sound Q s ⟨state, h.runs.set n r', h.tasks ++ more, h.log⟩ where
  hosted q hq := by
    rcases List.mem_or_eq_of_mem_set hq with hq | rfl
    · exact hsound.hosted q hq
    · exact hhosted
  side := hside.trans hsound.side
  tasks := by
    rw [← List.append_assoc]
    exact (hsound.tasks.append_right more).trans (flatMap_set_perm hr hstarted).symm

theorem Sound.after (hsound : Sound Q s h) (hs : s.stores.analytics.isSome)
    (hserve : ∀ message, Hosted (Q message) [] (serve message)) (e : Event) : Sound Q s (h.after serve e) := by
  cases e with
  | arrive message =>
    refine ⟨fun r hr => ?_, hsound.side, ?_⟩
    · rcases List.mem_append.mp hr with hr | hr
      · exact hsound.hosted r hr
      · obtain rfl := List.mem_singleton.mp hr
        exact hserve message
    · simpa only [Host.after, List.flatMap_append, List.flatMap_singleton, List.append_nil] using hsound.tasks
  | go n =>
    rw [Host.after]
    cases hr : h.runs[n]? with
    | none => exact hsound
    | some r =>
      obtain ⟨message, rest, started⟩ := r
      have hhosted : Hosted (Q message) started rest := hsound.hosted _ (List.mem_of_getElem? hr)
      cases rest with
      | done a => exact hsound
      | mark entry next =>
        have hnext : Hosted (Q message) started next := hhosted.unmark
        have hset : Sound Q s ⟨h.state, h.runs.set n ⟨message, next, started⟩, h.tasks ++ [], h.log⟩ :=
          hsound.set hr (List.append_nil _).symm hnext rfl
        rwa [List.append_nil] at hset
      | step change next =>
        obtain ⟨hplain, -, hnext⟩ := hhosted.go hsound.started (hsound.present hs)
        rw [← hplain.started hsound.started] at hnext
        refine hsound.set hr rfl hnext ?_
        show { (change h.state).hookSide with started := [] } = h.state.hookSide
        rw [hplain.side]
        exact congrArg (HookSide.mk _ _ _) hsound.started.symm
  | hook k answers =>
    rw [Host.after]
    cases htask : h.tasks[k]? with
    | none => exact hsound
    | some task =>
      refine ⟨hsound.hosted, ?_, ?_⟩
      · show (task.goAhead answers h.state).hookSide = _
        rw [task.goAhead_eq answers (hsound.present hs), HookRun.record_hookSide, hsound.side, hsound.started]
        exact (HookSide.ofLog_append s h.log _).symm
      · obtain ⟨hk, rfl⟩ := List.getElem?_eq_some_iff.mp htask
        dsimp only
        rw [List.map_append, List.append_assoc]
        exact ((List.getElem_cons_eraseIdx_perm hk).append_left _).trans hsound.tasks
  | others bystander => exact ⟨hsound.hosted, (bystander.side h.state).trans hsound.side, hsound.tasks⟩

theorem Sound.foldl (hsound : Sound Q s h) (hs : s.stores.analytics.isSome)
    (hserve : ∀ message, Hosted (Q message) [] (serve message)) (events : List Event) :
    Sound Q s (events.foldl (Host.after serve) h) := by
  induction events generalizing h with
  | nil => exact hsound
  | cons e events ih => exact ih (hsound.after hs hserve e)

theorem sound_ofEvents (hs : s.stores.analytics.isSome) (hstarted : s.started = [])
    (hserve : ∀ message, Hosted (Q message) [] (serve message)) (events : List Event) :
    Sound Q s (ofEvents serve s events) := by
  have hempty : Sound Q s (⟨s, [], [], []⟩ : Host α) :=
    ⟨fun r hr => (List.not_mem_nil hr).elim, (HookSide.ofLog_nil hstarted).symm, .nil⟩
  exact hempty.foldl hs hserve events

/-! ### Courses that differ in what hooks do -/

/-- Two hosts that differ in what hooks did. -/
structure Alike (h h' : Host α) : Prop where
  bare : h.state.bare = h'.state.bare
  runs : h.runs = h'.runs

/-- A hook that goes ahead makes no difference. -/
theorem Sound.after_hook (hsound : Sound Q s h) (hs : s.stores.analytics.isSome) {e : Event} (he : e.isHook) :
    Alike (h.after serve e) h := by
  cases e with
  | hook k answers =>
    rw [Host.after]
    cases h.tasks[k]? with
    | none => exact ⟨rfl, rfl⟩
    | some task =>
      refine ⟨?_, rfl⟩
      show (task.goAhead answers h.state).bare = _
      rw [task.goAhead_eq answers (hsound.present hs), HookRun.record_bare]
  | _ => cases he

/-- What hooks did makes no difference to anything else. -/
theorem Alike.after (halike : Alike h h') (hsound : Sound Q s h) (hsound' : Sound Q s h')
    (hs : s.stores.analytics.isSome) {e : Event} (he : e.isHook = false) :
    Alike (h.after serve e) (h'.after serve e) := by
  obtain ⟨hbare, hruns⟩ := halike
  cases e with
  | arrive message => exact ⟨hbare, congrArg (· ++ _) hruns⟩
  | go n =>
    rw [Host.after, Host.after, ← hruns]
    cases hr : h.runs[n]? with
    | none => exact ⟨hbare, hruns⟩
    | some r =>
      obtain ⟨message, rest, started⟩ := r
      have hhosted : Hosted (Q message) started rest := hsound.hosted _ (List.mem_of_getElem? hr)
      cases rest with
      | done a => exact ⟨hbare, hruns⟩
      | mark entry next => exact ⟨hbare, rfl⟩
      | step change next =>
        obtain ⟨hplain, hnext, -⟩ := hhosted.go hsound.started (hsound.present hs)
        obtain ⟨hplain', -, -⟩ := hhosted.go hsound'.started (hsound'.present hs)
        refine ⟨?_, ?_⟩
        · show (change h.state).bare = (change h'.state).bare
          rw [hplain.bare, hplain'.bare, hbare]
        · show h.runs.set n ⟨message, next h.state, started ++ (change h.state).started⟩ =
            h'.runs.set n ⟨message, next h'.state, started ++ (change h'.state).started⟩
          rw [hruns, hnext h'.state hbare.symm hsound'.started, hplain.started hsound.started,
            hplain'.started hsound'.started, hbare]
  | hook k answers => cases he
  | others bystander =>
    refine ⟨?_, hruns⟩
    show (bystander.change h.state).bare = (bystander.change h'.state).bare
    rw [bystander.bare, bystander.bare, hbare]

theorem alike_ofEvents (hs : s.stores.analytics.isSome) (hstarted : s.started = [])
    (hserve : ∀ message, Hosted (Q message) [] (serve message)) (events : List Event) :
    Alike (ofEvents serve s events) (ofEvents serve s (events.filter (!·.isHook))) := by
  have hfold : ∀ (events : List Event) (h h' : Host α), Sound Q s h → Sound Q s h' → Alike h h' →
      Alike (events.foldl (after serve) h) ((events.filter (!·.isHook)).foldl (after serve) h') := by
    intro events
    induction events with
    | nil => exact fun h h' _ _ halike => halike
    | cons e events ih =>
      intro h h' hsound hsound' halike
      cases he : e.isHook with
      | true =>
        have hskip : Alike (h.after serve e) h := hsound.after_hook hs he
        rw [List.filter_cons_of_neg (by simp [he])]
        exact ih _ _ (hsound.after hs hserve e) hsound' ⟨hskip.bare.trans halike.bare, hskip.runs.trans halike.runs⟩
      | false =>
        rw [List.filter_cons_of_pos (by simp [he])]
        exact ih _ _ (hsound.after hs hserve e) (hsound'.after hs hserve e) (halike.after hsound hsound' hs he)
  have hsound : Sound Q s (⟨s, [], [], []⟩ : Host α) := sound_ofEvents hs hstarted hserve []
  exact hfold events _ _ hsound hsound ⟨rfl, rfl⟩

/-- Courses that differ only in what hooks do. -/
theorem Alike.of_filter_eq (hs : s.stores.analytics.isSome) (hstarted : s.started = [])
    (hserve : ∀ message, Hosted (Q message) [] (serve message)) {events events' : List Event}
    (h : events.filter (!·.isHook) = events'.filter (!·.isHook)) :
    Alike (ofEvents serve s events) (ofEvents serve s events') := by
  have hhooks := alike_ofEvents hs hstarted hserve events
  have hhooks' := alike_ofEvents hs hstarted hserve events'
  rw [← h] at hhooks'
  exact ⟨hhooks.bare.trans hhooks'.bare.symm, hhooks.runs.trans hhooks'.runs.symm⟩

end Courses

end Host

end ChatBot
