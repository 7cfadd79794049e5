/-
  ChatBot.Proofs.Pipeline.HookRuns — a hook that goes ahead, whatever the services answer it.

  What hooks write (`State.hookSide`) is apart from the rest of the state (`State.bare`).
  Proved: a hook adds what it notes, how it failed and its trace to the first, and leaves
  the rest as it is (`StartedHook.goAhead_eq`, `HookRun.record_bare`, `record_hookSide`).
-/
import ChatBot.Pipeline.Run

namespace ChatBot

open Steps

/-! ## What only hooks write -/

/-- What hooks write, and the hooks that wait. -/
structure HookSide where
  /-- The log of the analytics service, if there is one. -/
  synced : Option (List String)
  failures : Nat
  traces : List HookTrace
  started : List StartedHook

namespace State

def hookSide (s : State) : HookSide :=
  ⟨s.stores.analytics.map (·.synced), s.metrics.hookFailures, s.hookTraces, s.started⟩

/-- The state without what hooks write, and without hooks. -/
def bare (s : State) : State :=
  { s with
    stores := { s.stores with analytics := s.stores.analytics.map fun a => { a with synced := [] } }
    metrics := { s.metrics with hookFailures := 0 }
    hookTraces := []
    started := [] }

/-- A state is what hooks write and the rest. -/
theorem ext_bare {s t : State} (hbare : s.bare = t.bare) (hside : s.hookSide = t.hookSide) : s = t := by
  obtain ⟨⟨_, _, a, _, _⟩, _, _, ⟨⟩, _, _, _, _, _, _, _, _⟩ := s
  obtain ⟨⟨_, _, b, _, _⟩, _, _, ⟨⟩, _, _, _, _, _, _, _, _⟩ := t
  simp only [bare, hookSide, mk.injEq, Stores.mk.injEq, Metrics.mk.injEq, HookSide.mk.injEq] at hbare hside
  have hanalytics : a = b := by
    cases a with
    | none => cases b with
      | none => rfl
      | some b => simp at hbare
    | some a => cases b with
      | none => simp at hbare
      | some b =>
        obtain ⟨_, _, _⟩ := a
        obtain ⟨_, _, _⟩ := b
        simp_all
  simp_all

end State

/-! ## Hooks that go ahead -/

/-- How the services answer a hook. -/
structure HookAnswers where
  /-- Why the look-up of the author fails, if it does. -/
  outage : Option ServiceError
  /-- Whether the analytics service refuses what is pushed. -/
  refuses : Bool

/-- How the stores answer by themselves. -/
def Stores.hookAnswers (s : Stores) : HookAnswers := ⟨s.outages .user, s.analytics.any (·.failing)⟩

/-- The stores with these answers. -/
def Stores.answering (s : Stores) (answers : HookAnswers) : Stores :=
  { s.setOutage .user answers.outage with
    analytics := s.analytics.map fun a => { a with failing := answers.refuses } }

theorem Stores.hookAnswers_answering {s : Stores} (answers : HookAnswers) (h : s.analytics.isSome) :
    (s.answering answers).hookAnswers = answers := by
  obtain ⟨a, ha⟩ := Option.isSome_iff_exists.mp h
  simp only [hookAnswers, answering, setOutage, ha]
  rfl

/-- Nothing else changes. -/
theorem Stores.answering_answering (s : Stores) (answers : HookAnswers) :
    (s.answering answers).answering s.hookAnswers = s := by
  have houtages : ((s.setOutage .user answers.outage).setOutage .user (s.outages .user)).outages = s.outages := by
    funext c
    simp only [setOutage]
    split
    · rename_i hc
      rw [hc]
    · rfl
  obtain ⟨_, _, analytics, _, _⟩ := s
  cases analytics with
  | none => simpa [answering, hookAnswers, setOutage] using houtages
  | some a => simpa [answering, hookAnswers, setOutage] using houtages

/-- A hook goes ahead and gets these answers. -/
def StartedHook.goAhead (h : StartedHook) (answers : HookAnswers) (s : State) : State :=
  ((State.runHook h).run (s.mapStores (·.answering answers))).2.mapStores (·.answering s.stores.hookAnswers)

def StartedHook.isSync (h : StartedHook) : Bool := h.hook.action = .syncIdentity

/-- A hook that went ahead. -/
structure HookRun where
  task : StartedHook
  /-- What a look-up of the author gives. -/
  found : Except ServiceError (Option LocalIdentity)
  /-- Whether the analytics service refuses what is pushed. -/
  refuses : Bool

/-- What the services answer a hook. -/
def StartedHook.answered (h : StartedHook) (answers : HookAnswers) (stores : Stores) : HookRun where
  task := h
  found := match answers.outage with
    | some e => .error e
    | none => .ok (stores.identities.user? h.authorId)
  refuses := answers.refuses

namespace HookRun

/-- The record that is pushed: one with an account. -/
def pushed? (r : HookRun) : Option LocalIdentity :=
  match r.found with
  | .ok (some identity) => if r.task.isSync && identity.remoteUsername.isSome then some identity else none
  | _ => none

theorem pushed?_eq_some {r : HookRun} {identity : LocalIdentity} : r.pushed? = some identity ↔
    r.task.isSync ∧ r.found = .ok (some identity) ∧ identity.remoteUsername.isSome := by
  unfold pushed?
  cases hfound : r.found with
  | error e => simp
  | ok found => cases found with
    | none => simp
    | some other =>
      simp only [Option.ite_none_right_eq_some, Bool.and_eq_true, Option.some.injEq, Except.ok.injEq]
      constructor
      · rintro ⟨⟨hsync, hname⟩, rfl⟩
        exact ⟨hsync, rfl, hname⟩
      · rintro ⟨hsync, rfl, hname⟩
        exact ⟨⟨hsync, hname⟩, rfl⟩

/-- The id that the analytics service notes. -/
def accepted? (r : HookRun) : Option String := if r.refuses then none else r.pushed?.map (·.platformId)

def isRefused (r : HookRun) : Bool := r.refuses && r.pushed?.isSome

/-- The look-up of the author failed. -/
def isLost (r : HookRun) : Bool := r.task.isSync && !r.found.toBool

/-- A logging hook failed. -/
def isFailed (r : HookRun) : Bool := r.task.hook.action = .log true

def failures (r : HookRun) : Nat := r.isLost.toNat + r.isRefused.toNat + r.isFailed.toNat

def traces (r : HookRun) : List HookTrace :=
  if r.task.isSync then [] else [⟨r.task.hook.name, r.task.authorId, r.task.command⟩]

/-- What a run of a hook makes of the state. -/
def record (r : HookRun) (s : State) : State :=
  { s with
    stores := { s.stores with
      analytics := s.stores.analytics.map fun a => { a with synced := a.synced ++ r.accepted?.toList } }
    metrics := { s.metrics with hookFailures := s.metrics.hookFailures + r.failures }
    hookTraces := s.hookTraces ++ r.traces }

theorem record_bare (r : HookRun) (s : State) : (r.record s).bare = s.bare := by
  have hanalytics : (s.stores.analytics.map fun a => { a with synced := a.synced ++ r.accepted?.toList }).map
      (fun a => { a with synced := [] }) = s.stores.analytics.map fun a => { a with synced := [] } := by
    cases s.stores.analytics <;> rfl
  simp only [State.bare, record, hanalytics]

theorem record_hookSide (r : HookRun) (s : State) : (r.record s).hookSide =
    ⟨s.hookSide.synced.map (· ++ r.accepted?.toList), s.hookSide.failures + r.failures,
      s.hookSide.traces ++ r.traces, s.started⟩ := by
  simp only [State.hookSide, record, Option.map_map]
  rfl

section

variable {r : HookRun} (s : State)

theorem noted_nil (analytics : Option Analytics) :
    (analytics.map fun a => { a with synced := a.synced ++ [] }) = analytics := by
  simp only [List.append_nil, Option.map_id']

/-- What is refused was looked up. -/
theorem failures_sync (h : r.task.hook.action = .syncIdentity) : r.failures = (r.isLost || r.isRefused).toNat := by
  have hfailed : r.isFailed = false := by rw [isFailed, h]; rfl
  rw [failures, hfailed]
  cases hlost : r.isLost with
  | false => simp
  | true =>
    have hfound : r.found.toBool = false := by simpa using (Bool.and_eq_true_iff.mp hlost).2
    have hrefused : r.isRefused = false := by
      rw [isRefused, pushed?]
      cases hr : r.found with
      | error e => simp
      | ok found => simp [hr, Except.toBool] at hfound
    rw [hrefused]
    rfl

theorem record_sync (h : r.task.hook.action = .syncIdentity) : r.record s = { s with
    stores := { s.stores with
      analytics := s.stores.analytics.map fun a => { a with synced := a.synced ++ r.accepted?.toList } }
    metrics := { s.metrics with hookFailures := s.metrics.hookFailures + (r.isLost || r.isRefused).toNat } } := by
  have htraces : r.traces = [] := if_pos (by rw [StartedHook.isSync, h]; rfl)
  rw [record, failures_sync h, htraces, List.append_nil]

theorem record_log {fails : Bool} (h : r.task.hook.action = .log fails) : r.record s = { s with
    metrics := { s.metrics with hookFailures := s.metrics.hookFailures + fails.toNat }
    hookTraces := s.hookTraces ++ [⟨r.task.hook.name, r.task.authorId, r.task.command⟩] } := by
  have hsync : r.task.isSync = false := by rw [StartedHook.isSync, h]; rfl
  have hpushed : r.pushed? = none := by
    rw [pushed?, hsync]
    split <;> rfl
  have haccepted : r.accepted? = none := by rw [accepted?, hpushed, Option.map_none, ite_self]
  have hfailures : r.failures = fails.toNat := by
    rw [failures, isLost, isRefused, isFailed, hpushed, hsync, h, Option.isSome_none, Bool.and_false]
    cases fails <;> rfl
  rw [record, haccepted, hfailures, traces, hsync, Option.toList_none, noted_nil]
  rfl

end

end HookRun

/-- What the identity sync makes of the state. -/
theorem State.syncIdentity_eq {h : StartedHook} (hsync : h.isSync) (s : State) :
    let r := h.answered s.stores.hookAnswers s.stores
    (match State.syncIdentity h.authorId s.stores with
      | .ok stores => (true, { s with stores := stores })
      | .error _ => (false, s)) = (!(r.isLost || r.isRefused), { s with stores := { s.stores with
        analytics := s.stores.analytics.map fun a => { a with synced := a.synced ++ r.accepted?.toList } } }) := by
  have hfound : (h.answered s.stores.hookAnswers s.stores).found = s.stores.user h.authorId := rfl
  have htask : (h.answered s.stores.hookAnswers s.stores).task.isSync = true := hsync
  have hnothing := HookRun.noted_nil s.stores.analytics
  simp only [State.syncIdentity, HookRun.isLost, HookRun.isRefused, HookRun.accepted?, HookRun.pushed?, hfound, htask,
    Bool.true_and]
  cases s.stores.user h.authorId with
  | error e =>
    simp only [Option.map_none, ite_self, Option.toList, hnothing]
    rfl
  | ok found =>
    cases found with
    | none =>
      simp only [Option.map_none, ite_self, Option.toList, hnothing, Option.isSome_none, Bool.and_false]
      rfl
    | some identity =>
      simp only [bind, Except.bind]
      cases identity.remoteUsername with
      | none =>
        simp only [Option.isSome_none, Bool.false_eq_true, if_false, Option.map_none, ite_self, Option.toList, hnothing,
          Bool.and_false]
        rfl
      | some name =>
        obtain ⟨⟨_, _, analytics, _, _⟩, _, _, _, _, _, _, _, _, _, _, _⟩ := s
        cases analytics with
        | none => rfl
        | some a =>
          obtain ⟨_, _, failing⟩ := a
          cases failing with
          | false => rfl
          | true => exact congrArg (fun a => (false, State.mk ⟨_, _, a, _, _⟩ _ _ _ _ _ _ _ _ _ _ _)) hnothing.symm

/-- What a hook makes of the state, with the answers of the stores. -/
theorem State.run_runHook (h : StartedHook) (s : State) :
    (runHook h).run s = ((), (h.answered s.stores.hookAnswers s.stores).record s) := by
  cases haction : h.hook.action with
  | log fails =>
    rw [HookRun.record_log s (r := h.answered s.stores.hookAnswers s.stores) haction, runHook, haction]
    cases fails <;> rfl
  | syncIdentity =>
    have hsync : h.isSync = true := by rw [StartedHook.isSync, haction]; rfl
    have hown := syncIdentity_eq hsync s
    rw [HookRun.record_sync s (r := h.answered s.stores.hookAnswers s.stores) haction, runHook, haction]
    dsimp only at hown ⊢
    generalize h.answered s.stores.hookAnswers s.stores = r at hown ⊢
    -- the answer of the first step decides whether the second counts a failure
    have hcounted : ∀ (t : State) (failed : Bool) (p : Bool × State), p = (!failed, t) →
        (if !p.1 then count .hookFailure else pure ()).run p.2 =
          ((), { t with metrics := { t.metrics with hookFailures := t.metrics.hookFailures + failed.toNat } }) := by
      rintro t failed _ rfl
      cases failed <;> rfl
    rw [run_bind]
    exact hcounted _ _ _ hown

/-- What a hook makes of the state, whatever answers it gets. -/
theorem StartedHook.goAhead_eq (h : StartedHook) (answers : HookAnswers) {s : State} (hs : s.stores.analytics.isSome) :
    h.goAhead answers s = (h.answered answers s.stores).record s := by
  have hcommute : ∀ (r : HookRun) (t : State) (a : HookAnswers),
      (r.record t).mapStores (·.answering a) = r.record (t.mapStores (·.answering a)) := by
    intro r t a
    simp only [HookRun.record, State.mapStores, Stores.answering, Stores.setOutage, Option.map_map]
    rfl
  have hstores : (s.mapStores (·.answering answers)).stores.hookAnswers = answers :=
    s.stores.hookAnswers_answering answers hs
  rw [goAhead, State.run_runHook, hstores, hcommute]
  show HookRun.record _ (s.mapStores fun t => (t.answering answers).answering s.stores.hookAnswers) = _
  rw [show (s.mapStores fun t => (t.answering answers).answering s.stores.hookAnswers) = s from
    congrArg (fun t => { s with stores := t }) (s.stores.answering_answering answers)]
  rfl

end ChatBot
