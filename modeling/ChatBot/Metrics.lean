/-
  ChatBot.Metrics — counters over all runs of a bot.

  A counter moves only when its event is recorded (`Metrics.record`), so metrics are the
  fold of the events so far.
-/
import ChatBot.Dict

namespace ChatBot

structure Metrics where
  messagesReceived : Nat
  commandRuns : Nat
  rolloutMisses : Nat
  gateDenials : Nat
  clientErrors : Nat
  internalErrors : Nat
  delegations : Nat
  hookFailures : Nat
  runsByCommand : Dict String Nat

namespace Metrics

/-- What is counted. -/
inductive Event where
  /-- A message that names a command. -/
  | received
  /-- A command that reached its checks on arguments. -/
  | run (command : String)
  | rolloutMiss
  | gateDenial
  | error (clientFacing : Bool)
  | delegation
  | hookFailure
  deriving DecidableEq

def zero : Metrics := ⟨0, 0, 0, 0, 0, 0, 0, 0, .empty⟩

def record (m : Metrics) : Event → Metrics
  | .received => { m with messagesReceived := m.messagesReceived + 1 }
  | .run command =>
    { m with commandRuns := m.commandRuns + 1, runsByCommand := m.runsByCommand.increment command }
  | .rolloutMiss => { m with rolloutMisses := m.rolloutMisses + 1 }
  | .gateDenial => { m with gateDenials := m.gateDenials + 1 }
  | .error true => { m with clientErrors := m.clientErrors + 1 }
  | .error false => { m with internalErrors := m.internalErrors + 1 }
  | .delegation => { m with delegations := m.delegations + 1 }
  | .hookFailure => { m with hookFailures := m.hookFailures + 1 }

def ofEvents (events : List Event) : Metrics := events.foldl record zero

/-- Errors of both kinds. -/
def errors (m : Metrics) : Nat := m.clientErrors + m.internalErrors

end Metrics

end ChatBot
