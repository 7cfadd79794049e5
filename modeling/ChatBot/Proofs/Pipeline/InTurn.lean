/-
  ChatBot.Proofs.Pipeline.InTurn — messages handled in turn are a course of a host.

  A run that settles lets the hooks that wait go ahead there, in order. A host does the same
  when it lets its tasks go ahead just before the run settles, with the answers that the
  stores give by themselves. So what holds of every course of a host holds of messages that
  are handled one after another (`Host.handles_in_turn`).
-/
import ChatBot.Proofs.Pipeline.Hosting

namespace ChatBot

open Steps

namespace Host

variable {α β : Type} {serve : InboundMessage → Act α} {Q : InboundMessage → List StartedHook → α → Prop} {s : State}
  {h : Host α}

/-- The state in which the tasks are hooks that wait. -/
def merged (h : Host α) : State := { h.state with started := h.tasks }

/-- Nothing but tasks went ahead, and all of them. -/
theorem Sound.settles (hsound : Sound Q s h) (hs : s.stores.analytics.isSome)
    (hserve : ∀ message, Hosted (Q message) [] (serve message)) :
    ∃ events : List Event, ∃ log, events.foldl (Host.after serve) h =
      ⟨(State.settle.run h.merged).2, h.runs, [], log⟩ := by
  have hmerged : { h.merged with started := [] } = h.state :=
    congrArg (fun started => { h.state with started := started }) hsound.started.symm
  show ∃ events : List Event, ∃ log, events.foldl (Host.after serve) h =
    ⟨((h.tasks.forM State.runHook).run { h.merged with started := [] }).2, h.runs, [], log⟩
  rw [hmerged]
  clear hmerged
  induction htasks : h.tasks generalizing h with
  | nil =>
    obtain ⟨state, runs, tasks, log⟩ := h
    obtain rfl : tasks = [] := htasks
    exact ⟨[], log, rfl⟩
  | cons task tasks ih =>
    have hafter : h.after serve (.hook 0 h.state.stores.hookAnswers) =
        ⟨((State.runHook task).run h.state).2, h.runs, tasks,
          h.log ++ [task.answered h.state.stores.hookAnswers h.state.stores]⟩ := by
      simp only [Host.after, htasks, List.getElem?_cons_zero, List.eraseIdx_cons_zero,
        task.goAhead_eq h.state.stores.hookAnswers (hsound.present hs), State.run_runHook]
    obtain ⟨events, log, hevents⟩ := ih (hsound.after hs hserve (.hook 0 h.state.stores.hookAnswers)) (by rw [hafter])
    refine ⟨.hook 0 h.state.stores.hookAnswers :: events, log, ?_⟩
    rw [List.foldl_cons, hevents, hafter]
    have hrun : ((State.runHook task >>= fun _ => tasks.forM State.runHook).run h.state).2 =
        ((tasks.forM State.runHook).run ((State.runHook task).run h.state).2).2 := by rw [run_bind]
    exact congrArg (fun t => Host.mk t h.runs [] log) hrun.symm

/-- A step does the same when the tasks wait in the state. -/
theorem merged_stepped {change : State → State} {next : State → Act α} {n : Nat} {r : HostedRun α}
    (hplain : ∀ t, Plain change t) (hstarted : h.state.started = []) :
    (h.stepped n r change next).merged = change h.merged := by
  refine State.ext_bare ?_ ?_
  · show (change h.state).bare = (change h.merged).bare
    rw [(hplain _).bare, (hplain _).bare]
    rfl
  · show { (change h.state).hookSide with started := h.tasks ++ (change h.state).started } = (change h.merged).hookSide
    rw [(hplain h.merged).side, (hplain h.state).side, (hplain h.state).started hstarted]
    rfl

/-- A run goes to its end, with nothing between its steps but the hooks that it lets finish. -/
theorem Sound.goes_alone (hsound : Sound Q s h) {message : InboundMessage} {x : Act α} {l : List StartedHook}
    (hx : Hosted (Q message) l x) (hs : s.stores.analytics.isSome)
    (hserve : ∀ message, Hosted (Q message) [] (serve message)) {n : Nat}
    (hr : h.runs[n]? = some ⟨message, x, l⟩) :
    ∃ events : List Event, ∃ h', events.foldl (Host.after serve) h = h' ∧ h'.merged = (x.run h.merged).2 ∧
      ∃ l', h'.runs = h.runs.set n ⟨message, .done (x.run h.merged).1, l'⟩ := by
  induction hx generalizing h with
  | @done l a ha =>
    obtain ⟨hn, hget⟩ := List.getElem?_eq_some_iff.mp hr
    refine ⟨[], h, rfl, rfl, l, ?_⟩
    rw [run_done, ← hget, List.set_getElem_self]
  | @mark l entry next _ ih =>
    have hgo : h.after serve (.go n) = { h with runs := h.runs.set n ⟨message, next, l⟩ } := by
      simp only [Host.after, hr]
    have hr' : (h.after serve (.go n)).runs[n]? = some ⟨message, next, l⟩ := by
      rw [hgo]
      exact List.getElem?_set_self (List.getElem?_eq_some_iff.mp hr).1
    obtain ⟨events, h', hevents, hmerged, l', hruns⟩ := ih (hsound.after hs hserve (.go n)) hr'
    rw [hgo] at hmerged hruns
    refine ⟨.go n :: events, h', hevents, hmerged, l', ?_⟩
    rw [hruns]
    exact List.set_set ..
  | @step l change next hplain hnext _ ih =>
    have hgo : h.after serve (.go n) = h.stepped n ⟨message, .step change next, l⟩ change next := by
      simp only [Host.after, hr]
    have hstep : h.state.bare = h.merged.bare := rfl
    have hr' : (h.after serve (.go n)).runs[n]? = some ⟨message, next h.state, l ++ (change h.state.bare).started⟩ := by
      rw [hgo, ← (hplain h.state).started hsound.started]
      exact List.getElem?_set_self (List.getElem?_eq_some_iff.mp hr).1
    obtain ⟨events, h', hevents, hmerged, l', hruns⟩ :=
      ih h.state (hsound.present hs) (hsound.after hs hserve (.go n)) hr'
    rw [hgo, merged_stepped hplain hsound.started] at hmerged hruns
    have hrun : (Steps.step change next : Act α).run h.merged = (next h.state).run (change h.merged) := by
      rw [hnext h.state, hstep, ← hnext h.merged]
      rfl
    refine ⟨.go n :: events, h', hevents, by rw [hrun]; exact hmerged, l', ?_⟩
    rw [hruns, hrun]
    exact List.set_set ..
  | @settle l k _ ih =>
    obtain ⟨hooks, log, hhooks⟩ := hsound.settles hs hserve
    generalize ht : (State.settle.run h.merged).2 = t at hhooks
    have hsettled := hhooks ▸ hsound.foldl hs hserve hooks
    have hstarted : t.started = [] := hsettled.started
    have hgo : (⟨t, h.runs, [], log⟩ : Host α).after serve (.go n) = ⟨t, h.runs.set n ⟨message, k, l⟩, [], log⟩ := by
      have hstep : (⟨t, h.runs, [], log⟩ : Host α).after serve (.go n) = ⟨{ t with started := [] },
          h.runs.set n ⟨message, t.started.forM State.runHook >>= fun _ => k, l ++ []⟩, [], log⟩ := by
        simp only [Host.after, hr]
        rfl
      rw [hstep, hstarted, List.append_nil]
      exact congrArg (fun started => Host.mk { t with started := started } _ [] log) hstarted.symm
    have hr' : ((⟨t, h.runs, [], log⟩ : Host α).after serve (.go n)).runs[n]? = some ⟨message, k, l⟩ := by
      rw [hgo]
      exact List.getElem?_set_self (List.getElem?_eq_some_iff.mp hr).1
    obtain ⟨events, h', hevents, hmerged, l', hruns⟩ := ih (hsettled.after hs hserve (.go n)) hr'
    have hmerged' : (⟨t, h.runs.set n ⟨message, k, l⟩, [], log⟩ : Host α).merged = t :=
      congrArg (fun started => { t with started := started }) hstarted.symm
    rw [hgo, hmerged'] at hmerged hruns
    have hrun : (State.settle >>= fun _ => k).run h.merged = k.run t := by rw [run_bind, ht]
    refine ⟨hooks ++ .go n :: events, h', ?_, by rw [hrun]; exact hmerged, l', ?_⟩
    · rw [List.foldl_append, hhooks, List.foldl_cons]
      exact hevents
    · rw [hruns, hrun]
      exact List.set_set ..

/-- A message is handled, and then the hooks finish. -/
theorem Sound.handles_next (hs : s.stores.analytics.isSome) (hserve : ∀ message, Hosted (Q message) [] (serve message))
    (hsound : Sound Q s h) (hidle : h.tasks = []) (message : InboundMessage) :
    ∃ events : List Event, ∃ h', events.foldl (Host.after serve) h = h' ∧ h'.tasks = [] ∧
      h'.state = (State.settle.run ((serve message).run h.state).2).2 ∧
      ∃ l, h'.runs = h.runs ++ [⟨message, .done ((serve message).run h.state).1, l⟩] := by
  have hr : (h.after serve (.arrive message)).runs[h.runs.length]? = some ⟨message, serve message, []⟩ := by
    simp [Host.after]
  have harrive := hsound.after hs hserve (.arrive message)
  obtain ⟨events, h₁, hevents, hmerged, l, hruns⟩ := harrive.goes_alone (hserve message) hs hserve hr
  have hstate : (h.after serve (.arrive message)).merged = h.state := by
    show { h.state with started := h.tasks } = h.state
    rw [hidle]
    exact congrArg (fun started => { h.state with started := started }) hsound.started.symm
  have hset : ∀ r : HostedRun α, (h.after serve (.arrive message)).runs.set h.runs.length r = h.runs ++ [r] := by
    simp [Host.after]
  rw [hstate] at hmerged hruns
  rw [hset] at hruns
  obtain ⟨hooks, log, hhooks⟩ := Sound.settles (hevents ▸ harrive.foldl hs hserve events) hs hserve
  rw [hmerged, hruns] at hhooks
  refine ⟨.arrive message :: events ++ hooks, _, rfl, ?_⟩
  rw [List.foldl_append, List.foldl_cons, hevents, hhooks]
  exact ⟨rfl, rfl, l, rfl⟩

/-- Messages are handled one after another, and after each the hooks finish. -/
theorem Sound.handles_in_turn (hs : s.stores.analytics.isSome)
    (hserve : ∀ message, Hosted (Q message) [] (serve message)) {handle : InboundMessage → Act β} {f : α → β}
    (hhandle : ∀ message t, (handle message).run t =
      (f ((serve message).run t).1, (State.settle.run ((serve message).run t).2).2))
    (hsound : Sound Q s h) (hidle : h.tasks = []) (messages : List InboundMessage) :
    ∃ events : List Event, ∃ h', events.foldl (Host.after serve) h = h' ∧ h'.tasks = [] ∧
      h'.state = ((messages.mapM handle).run h.state).2 ∧
      h'.runs.map (·.rest.result?.map f) =
        h.runs.map (·.rest.result?.map f) ++ ((messages.mapM handle).run h.state).1.map some := by
  induction messages generalizing h with
  | nil => exact ⟨[], h, rfl, hidle, rfl, (List.append_nil _).symm⟩
  | cons message messages ih =>
    obtain ⟨now, h₁, hnow, hidle₁, hstate₁, l, hruns₁⟩ := hsound.handles_next hs hserve hidle message
    obtain ⟨events, h₂, hevents, hidle₂, hstate₂, hruns₂⟩ := ih (hnow ▸ hsound.foldl hs hserve now) hidle₁
    have hrun : ((message :: messages).mapM handle).run h.state =
        (f ((serve message).run h.state).1 :: ((messages.mapM handle).run h₁.state).1,
          ((messages.mapM handle).run h₁.state).2) := by
      rw [List.mapM_cons, run_bind, run_bind, hhandle, hstate₁]
      rfl
    refine ⟨now ++ events, h₂, ?_, hidle₂, ?_, ?_⟩
    · rw [List.foldl_append, hnow, hevents]
    · rw [hrun, hstate₂]
    · rw [hrun, hruns₂, hruns₁]
      simp [Steps.result?]

end Host

end ChatBot
