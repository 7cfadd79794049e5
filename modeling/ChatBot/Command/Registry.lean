/-
  ChatBot.Command.Registry — every command of a bot, and the command that a text calls.

  Names and aliases that are called directly are unique up to case, and so are ids; a
  registration that breaks this changes nothing. A text is resolved by its first word,
  tried as a name of every command, then as an alias, then as a variation; below a parent
  the second word selects a child.
-/
import ChatBot.Command.Basic
import ChatBot.Text.EditDistance

namespace ChatBot

open Text

structure Registry where
  nodes : List Node
  /-- Every command, children included, by id. -/
  byId : Dict CommandId Node
  /-- The names that are taken, in lowercase. -/
  names : List String

namespace Registry

def empty : Registry := ⟨[], .empty, []⟩

/-! ## Registration -/

/-- The names under which a node's commands are called directly. -/
def directNames (node : Node) : List String :=
  (if node.command.info.archived then [] else node.command.info.names) ++
    match node with
    | .parent p => (p.children.filter fun c => p.isDirect c && !c.info.archived).flatMap (·.info.names)
    | _ => []

/-- The first command whose seed is blank or whose id is taken; `seen` are the ids of
    the commands before it. -/
def checkIds (r : Registry) (seen : List CommandId) : List Node → Except RegistryError Unit
  | [] => .ok ()
  | n :: ns =>
    let info := n.command.info
    if isBlankText info.seed then .error (.emptySeed info.name)
    else match r.byId.get? info.id with
      | some taken => .error (.duplicateId info.id.hex taken.command.name info.name)
      | none =>
        if seen.contains info.id then .error (.duplicateId info.id.hex info.name info.name)
        else checkIds r (info.id :: seen) ns

/-- The names in lowercase, when none is taken; `seen` are the names before them. -/
def checkNames (r : Registry) (seen : List String) : List String → Except RegistryError (List String)
  | [] => .ok seen
  | n :: ns =>
    if r.names.contains (lower n) || seen.contains (lower n) then .error (.duplicateName n)
    else checkNames r (seen ++ [lower n]) ns

/-- The names that a node takes, in lowercase, when the registry has room for it. -/
def check (r : Registry) (node : Node) : Except RegistryError (List String) := do
  r.checkIds [] node.entries
  r.checkNames [] (directNames node)

/-- The command is found under its id. -/
def index (r : Registry) (n : Node) : Registry := { r with byId := r.byId.insert n.command.id n }

/-- Registers a node in place. Nothing takes back what is written before a check fails. -/
def enroll (node : Node) : ExceptT RegistryError (StateM Registry) Unit := do
  let names ← ofExcept ((← get).check node)
  node.entries.forM fun n => modify (·.index n)
  modify fun r => { r with names := r.names ++ names }
  modify fun r => { r with nodes := r.nodes ++ [node] }

/-- What a registration answers, and the registry that it leaves. -/
def enrolled (r : Registry) (node : Node) : Except RegistryError Unit × Registry :=
  ((enroll node).run.run r).run

def register (r : Registry) (node : Node) : Except RegistryError Registry :=
  let (answer, left) := r.enrolled node
  answer.map fun _ => left

/-- The registry of these nodes, in order. -/
def ofNodes (nodes : List Node) : Except RegistryError Registry := nodes.foldlM register empty

/-! ## Resolution -/

/-- The ways in which a word can select a command. -/
inductive Stage where
  | name | alias | variation
  deriving DecidableEq

/-- The command answers to a word; by a variation, if that is the stage. -/
def answers (stage : Stage) (info : CommandInfo) (token : String) : Option (Option Variation) :=
  match stage with
  | .name => if info.hasName token then some none else none
  | .alias => if info.hasAlias token then some none else none
  | .variation => (info.variationFor token).map some

/-- The node, or a child of it that is called directly, that answers to a word. -/
def matchNode (stage : Stage) (token : String) (node : Node) : Option (Node × Option Variation) :=
  let own := if node.command.info.archived then none
    else (answers stage node.command.info token).map fun v => (node, v)
  own.or <| match node with
    | .parent p => p.children.findSome? fun c =>
      if c.info.archived || !p.isDirect c then none
      else (answers stage c.info token).map fun v => (.child c p.command, v)
    | _ => none

/-- The first node, stage by stage, that answers to a word. -/
def matchFirst (r : Registry) (token : String) : Option (Node × Option Variation) :=
  [Stage.name, .alias, .variation].findSome? fun stage => r.nodes.findSome? (matchNode stage token)

/-- What a text calls. -/
structure Resolution where
  node : Node
  /-- The words that selected the command. -/
  consumed : List String
  variation : Option Variation
  invocation : Invocation

/-- The node below a parent: the child that the second word selects, else the default
    child, else the parent. With it the number of selecting words and the variation. -/
def descend (second : Option String) (node : Node) (variation : Option Variation) :
    Node × Nat × Option Variation :=
  match node with
  | .parent p =>
    match second.bind p.matchChild with
    | some (c, v) => (.child c p.command, 2, v.or variation)
    | none => match p.defaultChild.bind p.findChild with
      | some c => (.child c p.command, 1, variation)
      | none => (.parent p, 1, variation)
  | n => (n, 1, variation)

/-- The name of a variation, and the selecting words that spell it. -/
def variationMarks (variation : Option Variation) (consumed : List String) : List String :=
  match variation with
  | some v => v.name :: consumed.filter v.isSpelled
  | none => []

/-- The command that a text calls. -/
def resolve (r : Registry) (text : String) : Except CommandError Resolution :=
  match (tokenize text).map Token.text with
  | [] => .error (.notFound "Command")
  | first :: rest => match r.matchFirst first with
    | none => .error (.notFound ("Command `" ++ first ++ "`"))
    | some (node, variation) =>
      let (node, count, variation) := descend rest.head? node variation
      let consumed := (first :: rest).take count
      .ok ⟨node, consumed, variation,
        .ofText text count (variationMarks variation consumed)⟩

/-! ## Look-up and lists -/

def findById (r : Registry) (id : CommandId) : Option Node := r.byId.get? id

/-- The node of a name or alias. -/
def lookup (r : Registry) (name : String) : Option Node :=
  r.nodes.find? fun n => n.command.info.hasName name || n.command.info.hasAlias name

/-- The visible commands, children after their parent. -/
def list (r : Registry) : List Node :=
  r.nodes.flatMap fun n => n.entries.filter (·.command.info.isVisible)

/-- The names and aliases of the visible top-level commands. -/
def visibleNames (r : Registry) : List String :=
  (r.nodes.filter (·.command.info.isVisible)).flatMap (·.command.info.names)

/-- The visible names that begin with a text in any case, sorted. -/
def completions (r : Registry) (typed : String) : List String :=
  (r.visibleNames.filter fun n => (lower typed).toList.isPrefixOf (lower n).toList).mergeSort
    fun a b => a ≤ b

/-- The nearer of the best name so far and the next one; only names at most two edits
    away count. -/
def nearer (typed : String) (best : Option (String × Nat)) (name : String) : Option (String × Nat) :=
  let distance := editDistance (lower typed).toList (lower name).toList
  if distance ≤ 2 && (match best with | some b => distance < b.2 | none => true) then
    some (name, distance)
  else best

/-- The first of the visible names nearest to a text. -/
def suggest (r : Registry) (typed : String) : Option String :=
  (r.visibleNames.foldl (nearer typed) none).map Prod.fst

def size (r : Registry) : Nat := r.byId.size

def isEmpty (r : Registry) : Bool := r.byId.isEmpty

end Registry

end ChatBot
