/-
  ChatBot.Service.Monitor — what operators see: reports of internal errors and counters
  by name.
-/
import ChatBot.Dict
import ChatBot.Error

namespace ChatBot

/-- An internal error and the run in which it happened. -/
structure ErrorReport where
  error : String
  command : String
  commandId : String
  authorId : String
  guildId : Option String
  content : String
  deriving DecidableEq

structure Monitor where
  reports : List ErrorReport
  counters : Dict String Nat

namespace Monitor

def empty : Monitor := ⟨[], .empty⟩

def report (m : Monitor) (r : ErrorReport) : Monitor := { m with reports := m.reports ++ [r] }

def increment (m : Monitor) (counter : String) : Monitor :=
  { m with counters := m.counters.increment counter }

def counter (m : Monitor) (name : String) : Nat := (m.counters.get? name).getD 0

@[simp] theorem reports_increment (m : Monitor) (counter : String) : (m.increment counter).reports = m.reports := rfl

theorem counter_increment (m : Monitor) (counter name : String) :
    (m.increment counter).counter name = m.counter name + if name = counter then 1 else 0 := by
  simp only [increment, Monitor.counter, Dict.increment, Dict.get?_insert]
  split
  · rename_i h
    rw [h]; rfl
  · rfl

end Monitor

end ChatBot
