/-
  ChatBot.Pipeline.Steps — a computation over a shared state, as its atomic steps.

  Messages are handled side by side, and what others do falls between any two steps of a
  run. So a computation is no function of the state but a tree: a step says what it makes
  of the state, and what follows it, given the state that it found. `run` makes the steps
  with nothing between them; `ChatBot.Pipeline.Traffic` mixes the steps of many runs.
  A computation also leaves marks for whoever watches it, which change nothing (`marks`).
-/

namespace ChatBot

/-- Steps over states `σ`, with marks `μ`, that end in an `α`. -/
inductive Steps (σ μ α : Type) where
  | done (value : α)
  | step (change : σ → σ) (next : σ → Steps σ μ α)
  | mark (entry : μ) (next : Steps σ μ α)

namespace Steps

variable {σ μ α β γ : Type}

protected def bind : Steps σ μ α → (α → Steps σ μ β) → Steps σ μ β
  | .done a, k => k a
  | .step change next, k => .step change fun s => (next s).bind k
  | .mark entry next, k => .mark entry (next.bind k)

instance : Monad (Steps σ μ) where
  pure := .done
  bind := .bind

/-- A step that also answers, from the state that it found. -/
def modifyGet (f : σ → α × σ) : Steps σ μ α := .step (fun s => (f s).2) fun s => .done (f s).1

instance : MonadStateOf σ (Steps σ μ) where
  get := .step id .done
  set s := .step (fun _ => s) fun _ => .done ⟨⟩
  modifyGet := modifyGet

/-- Tells the watcher. -/
def tell (entry : μ) : Steps σ μ Unit := .mark entry (.done ())

/-- The steps one after another, with nothing between them. -/
def run : Steps σ μ α → σ → α × σ
  | .done a, s => (a, s)
  | .step change next, s => (next s).run (change s)
  | .mark _ next, s => next.run s

/-- The marks that such a run leaves. -/
def marks : Steps σ μ α → σ → List μ
  | .done _, _ => []
  | .step change next, s => (next s).marks (change s)
  | .mark entry next, s => entry :: next.marks s

def isDone : Steps σ μ α → Bool
  | .done _ => true
  | _ => false

/-- The result of a computation that has ended. -/
def result? : Steps σ μ α → Option α
  | .done a => some a
  | _ => none

/-! ## Laws -/

@[simp] theorem run_done (a : α) (s : σ) : (.done a : Steps σ μ α).run s = (a, s) := rfl

@[simp] theorem marks_done (a : α) (s : σ) : (.done a : Steps σ μ α).marks s = [] := rfl

@[simp] theorem run_tell (entry : μ) (s : σ) : (tell entry : Steps σ μ Unit).run s = ((), s) := rfl

@[simp] theorem marks_tell (entry : μ) (s : σ) : (tell entry : Steps σ μ Unit).marks s = [entry] := rfl

@[simp] theorem run_get (s : σ) : (get : Steps σ μ σ).run s = (s, s) := rfl

@[simp] theorem marks_get (s : σ) : (get : Steps σ μ σ).marks s = [] := rfl

@[simp] theorem pure_def (a : α) : (pure a : Steps σ μ α) = .done a := rfl

@[simp] theorem done_bind (a : α) (k : α → Steps σ μ β) : (.done a : Steps σ μ α) >>= k = k a := rfl

@[simp] theorem step_bind (change : σ → σ) (next : σ → Steps σ μ α) (k : α → Steps σ μ β) :
    .step change next >>= k = .step change fun s => next s >>= k := rfl

@[simp] theorem mark_bind (entry : μ) (next : Steps σ μ α) (k : α → Steps σ μ β) :
    .mark entry next >>= k = .mark entry (next >>= k) := rfl

theorem bind_done (x : Steps σ μ α) : x >>= .done = x := by
  induction x with
  | done a => rfl
  | step change next ih => rw [step_bind]; exact congrArg _ (funext ih)
  | mark entry next ih => rw [mark_bind, ih]

theorem bind_assoc (x : Steps σ μ α) (f : α → Steps σ μ β) (g : β → Steps σ μ γ) :
    x >>= f >>= g = x >>= fun a => f a >>= g := by
  induction x with
  | done a => rfl
  | step change next ih => simp only [step_bind]; exact congrArg _ (funext ih)
  | mark entry next ih => simp only [mark_bind, ih]

instance : LawfulMonad (Steps σ μ) := LawfulMonad.mk' _ bind_done (fun _ _ => rfl) bind_assoc

@[simp] theorem run_bind (x : Steps σ μ α) (k : α → Steps σ μ β) (s : σ) :
    (x >>= k).run s = (k (x.run s).1).run (x.run s).2 := by
  induction x generalizing s with
  | done a => rfl
  | step change next ih => exact ih s (change s)
  | mark entry next ih => exact ih s

@[simp] theorem marks_bind (x : Steps σ μ α) (k : α → Steps σ μ β) (s : σ) :
    (x >>= k).marks s = x.marks s ++ (k (x.run s).1).marks (x.run s).2 := by
  induction x generalizing s with
  | done a => rfl
  | step change next ih => exact ih s (change s)
  | mark entry next ih => simp only [mark_bind, marks, run, ih, List.cons_append]

end Steps

end ChatBot
