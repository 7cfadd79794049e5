/-
  ChatBot.Pipeline.Traffic — messages handled side by side by one bot.

  The runs share the state and take their steps in any order. Between two steps of a run
  anything else may happen to the state (`Interference`), except that nobody but the runs
  writes the books.
-/
import ChatBot.Pipeline.Run

namespace ChatBot

/-- What the runs alone write: the metrics, failures of hooks apart, and what the
    operators see. -/
def State.books (s : State) : Metrics × Monitor := ({ s.metrics with hookFailures := 0 }, s.monitor)

/-- What others do to the state: an admin decides, a hook goes ahead, time passes, a call
    begins or ceases to fail. -/
structure Interference where
  change : State → State
  keeps_books : ∀ s, (change s).books = s.books

/-- The shared state, and what is left of each run, in the order of arrival. -/
structure Traffic where
  state : State
  runs : List (Act (Except OutputError Outcome))

namespace Traffic

inductive Event where
  | arrive (message : InboundMessage)
  /-- A run makes its next step. -/
  | go (run : Nat)
  | interfere (other : Interference)

def after (bot : Bot) (t : Traffic) : Event → Traffic
  | .arrive message => { t with runs := t.runs ++ [bot.handle message] }
  | .go n => match t.runs[n]? with
    | some (.step change next) => ⟨change t.state, t.runs.set n (next t.state)⟩
    | some (.mark _ next) => { t with runs := t.runs.set n next }
    | _ => t
  | .interfere other => { t with state := other.change t.state }

/-- What a course of events makes of a state in which no message is in hand. -/
def ofEvents (bot : Bot) (s : State) (events : List Event) : Traffic := events.foldl (after bot) ⟨s, []⟩

/-- How a message ended, by the order of arrival. -/
def result? (t : Traffic) (n : Nat) : Option (Except OutputError Outcome) := t.runs[n]?.bind Steps.result?

/-- No run is in flight. -/
def isIdle (t : Traffic) : Bool := t.runs.all Steps.isDone

/-- A run makes a step, or tells its watcher, or has ended (as one that never was). -/
theorem go_cases (bot : Bot) (t : Traffic) (n : Nat) :
    (∃ change next, t.runs[n]? = some (.step change next) ∧
        t.after bot (.go n) = ⟨change t.state, t.runs.set n (next t.state)⟩) ∨
      (∃ entry next, t.runs[n]? = some (.mark entry next) ∧
        t.after bot (.go n) = { t with runs := t.runs.set n next }) ∨
      t.after bot (.go n) = t := by
  simp only [after]
  split
  · exact .inl ⟨_, _, ‹_›, rfl⟩
  · exact .inr (.inl ⟨_, _, ‹_›, rfl⟩)
  · exact .inr (.inr rfl)

/-- An outcome is final. -/
theorem result?_after {bot : Bot} {t : Traffic} {n : Nat} {r : Except OutputError Outcome}
    (h : t.result? n = some r) (e : Event) : (t.after bot e).result? n = some r := by
  obtain ⟨x, hx, hr⟩ := Option.bind_eq_some_iff.mp h
  have hset : ∀ k y z, t.runs[k]? = some y → y.result? = none →
      (⟨t.state, t.runs.set k z⟩ : Traffic).result? n = some r := by
    intro k y z hy hnone
    have hne : k ≠ n := by
      rintro rfl
      obtain rfl := Option.some.inj (hx.symm.trans hy)
      rw [hnone] at hr
      cases hr
    show (t.runs.set k z)[n]?.bind Steps.result? = some r
    rw [List.getElem?_set_ne hne, hx]
    exact hr
  cases e with
  | arrive message =>
    show (t.runs ++ [bot.handle message])[n]?.bind Steps.result? = some r
    rw [List.getElem?_append_left (List.getElem?_eq_some_iff.mp hx).1, hx]
    exact hr
  | go k =>
    rcases go_cases bot t k with ⟨change, next, hk, he⟩ | ⟨entry, next, hk, he⟩ | he
    · rw [he]
      exact hset k _ _ hk rfl
    · rw [he]
      exact hset k _ _ hk rfl
    · rwa [he]
  | interfere other => exact h

/-- With nothing between its steps, a run ends as `Steps.run` says. -/
theorem go_alone (bot : Bot) {n : Nat} {x : Act (Except OutputError Outcome)} {t : Traffic}
    (h : t.runs[n]? = some x) :
    ∃ k, (List.replicate k (.go n)).foldl (after bot) t =
      ⟨(x.run t.state).2, t.runs.set n (.done (x.run t.state).1)⟩ := by
  obtain ⟨hn, hx⟩ := List.getElem?_eq_some_iff.mp h
  induction x generalizing t with
  | done outcome => exact ⟨0, by simp only [Steps.run, ← hx, List.set_getElem_self]; rfl⟩
  | step change next ih =>
    have ht : t.after bot (.go n) = ⟨change t.state, t.runs.set n (next t.state)⟩ := by simp only [after, h]
    obtain ⟨k, hk⟩ := ih t.state (t := t.after bot (.go n)) (by rw [ht, List.getElem?_set_self hn])
      (by rw [ht, List.length_set]; exact hn) (by simp only [ht, List.getElem_set_self])
    exact ⟨k + 1, by rw [List.replicate_succ, List.foldl_cons, hk, ht, List.set_set]; rfl⟩
  | mark entry next ih =>
    have ht : t.after bot (.go n) = ⟨t.state, t.runs.set n next⟩ := by simp only [after, h]
    obtain ⟨k, hk⟩ := ih (t := t.after bot (.go n)) (by rw [ht, List.getElem?_set_self hn])
      (by rw [ht, List.length_set]; exact hn) (by simp only [ht, List.getElem_set_self])
    exact ⟨k + 1, by rw [List.replicate_succ, List.foldl_cons, hk, ht, List.set_set]; rfl⟩

end Traffic

end ChatBot
