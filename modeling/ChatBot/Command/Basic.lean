/-
  ChatBot.Command.Basic — commands, parents with children, and the nodes of the command
  tree.
-/
import ChatBot.Argument.Validation
import ChatBot.Command.Program

namespace ChatBot

open Text

/-- What a command does: checks before the run, then the run. -/
structure Handler where
  prerun : Context → Program
  run : Context → Program

namespace Handler

/-- A handler that does nothing before its run. -/
def ofRun (run : Context → Program) : Handler := ⟨fun _ => .done, run⟩

inductive Part where
  | prerun | run
  deriving DecidableEq

def program (h : Handler) : Part → Context → Program
  | .prerun => h.prerun
  | .run => h.run

end Handler

structure Command where
  info : CommandInfo
  schema : Schema
  rules : List ValidationRule
  /-- The commands that run in its place when their condition holds, the first one first. -/
  delegates : List ((ParsedArgs → Bool) × Command)
  /-- A loading reaction is shown after so many milliseconds. -/
  loadingAfter : Option Nat
  handler : Handler

namespace Command

/-- A command without arguments. -/
def simple (info : CommandInfo) (handler : Handler) : Command := ⟨info, .empty, [], [], none, handler⟩

def name (c : Command) : String := c.info.name

def id (c : Command) : CommandId := c.info.id

/-- The command that runs in place of this one. -/
def delegateFor (c : Command) (args : ParsedArgs) : Option ((ParsedArgs → Bool) × Command) :=
  c.delegates.find? fun d => d.1 args

/-- The target of a delegation is a part of the command. -/
theorem sizeOf_delegate {c : Command} {d : (ParsedArgs → Bool) × Command} (h : d ∈ c.delegates) :
    sizeOf d.2 < sizeOf c := by
  have h1 := List.sizeOf_lt_of_mem h
  have h2 : sizeOf d.2 < sizeOf d := by cases d; simp
  have h3 : sizeOf c.delegates < sizeOf c := by cases c; simp; omega
  omega

theorem delegateFor_mem {c : Command} {args : ParsedArgs} {d : (ParsedArgs → Bool) × Command}
    (h : c.delegateFor args = some d) : d ∈ c.delegates := List.mem_of_find?_eq_some h

/-- What holds of a command when it holds of all it delegates to holds of every command. -/
theorem delegation_induction {P : Command → Prop} (h : ∀ c : Command, (∀ d ∈ c.delegates, P d.2) → P c)
    (c : Command) : P c :=
  h c fun d _ => delegation_induction h d.2
termination_by sizeOf c
decreasing_by exact sizeOf_delegate ‹_›

end Command

/-- A command that owns others, called by its name and theirs. -/
structure ParentCommand where
  command : Command
  children : List Command
  /-- The child that runs when no word names one. -/
  defaultChild : Option String
  /-- The children that are also called without the parent. -/
  direct : List String
  /-- The bytes that an abbreviation of a child's name has at least. -/
  abbreviationMin : Option Nat

namespace ParentCommand

def isDirect (p : ParentCommand) (child : Command) : Bool := p.direct.any (alike · child.name)

/-- The children that are found by name. -/
def live (p : ParentCommand) : List Command := p.children.filter fun c => !c.info.archived

/-- The child of a name or alias, archived or not. -/
def findChild (p : ParentCommand) (name : String) : Option Command :=
  p.children.find? fun c => c.info.names.any (alike · name)

/-- The one child whose name begins with a word that is long enough. -/
def abbreviated (p : ParentCommand) (token : String) : Option Command :=
  match p.abbreviationMin with
  | none => none
  | some least =>
    if token.utf8ByteSize < least then none
    else match p.live.filter fun c => (lower token).toList.isPrefixOf (lower c.name).toList with
      | [c] => some c
      | _ => none

/-- The child that a word selects: by name, then by alias, then by variation, then by
    abbreviation. -/
def matchChild (p : ParentCommand) (token : String) : Option (Command × Option Variation) :=
  match p.live.find? (·.info.hasName token) with
  | some c => some (c, none)
  | none => match p.live.find? (·.info.hasAlias token) with
    | some c => some (c, none)
    | none =>
      match p.live.findSome? fun c => (c.info.variationFor token).map fun v => (c, v) with
      | some (c, v) => some (c, some v)
      | none => (p.abbreviated token).map fun c => (c, none)

end ParentCommand

/-- A node of the command tree. -/
inductive Node where
  | leaf (command : Command)
  | parent (parent : ParentCommand)
  | child (command parent : Command)

namespace Node

/-- The command that runs for the node. -/
def command : Node → Command
  | .leaf c => c
  | .parent p => p.command
  | .child c _ => c

def parent? : Node → Option Command
  | .child _ p => some p
  | _ => none

/-- The display name, after that of the parent. -/
def friendlyName : Node → String
  | .child c p => p.info.displayName ++ " " ++ c.info.displayName
  | n => n.command.info.displayName

/-- The node itself and the children of a parent. -/
def entries : Node → List Node
  | .parent p => .parent p :: p.children.map fun c => .child c p.command
  | n => [n]

end Node

end ChatBot
