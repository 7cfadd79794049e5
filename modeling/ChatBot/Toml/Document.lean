/-
  ChatBot.Toml.Document — the tables that the statements of a TOML text build.

  A statement either opens a table by its path, or gives a value to a key, which may be a
  path itself. Nothing is given twice: a table is opened once, a key has one value, and a
  table that dotted keys built is not opened, nor one that was opened built by them. A
  table that is only named on the way to another one may still be opened.
-/
import ChatBot.Settings.Basic

namespace ChatBot.Toml

/-- How a table came about. -/
inductive Origin where
  | opened
  /-- Named on the way to an opened table. -/
  | implied
  /-- Named in a dotted key. -/
  | dotted
  deriving DecidableEq

inductive Node where
  | value (value : Setting)
  | table (origin : Origin) (entries : List (String × Node))
  /-- A list of tables, the last one first. -/
  | tables (items : List (List (String × Node)))

abbrev Entries := List (String × Node)

/-- The entries with a node under a name. -/
def put (name : String) (node : Node) : Entries → Entries
  | [] => [(name, node)]
  | e :: es => if e.1 == name then (name, node) :: es else e :: put name node es

/-! ## Changing a table at a path -/

/-- Changes the table at a path below a table. Tables that are missing are made; a list
    of tables stands for its last one. A dotted path does not go through opened tables. -/
def changeAt (isDotted : Bool) (change : Origin → Entries → Option Entries) :
    List String → Origin → Entries → Option Entries
  | [], origin, entries => change origin entries
  | name :: path, _, entries =>
    match entries.lookup name with
    | none =>
      let origin := if isDotted then .dotted else .implied
      (changeAt isDotted change path origin []).map fun t => put name (.table origin t) entries
    | some (.table origin inner) =>
      if isDotted && origin == .opened then none
      else (changeAt isDotted change path origin inner).map fun t => put name (.table origin t) entries
    | some (.tables (last :: before)) =>
      (changeAt isDotted change path .opened last).map fun t => put name (.tables (t :: before)) entries
    | some _ => none

/-- A value for a key that has none, in the table that the path leads to from `entries`:
    one that dotted keys build, or the table itself. -/
def give (path : List String) (name : String) (value : Setting) (entries : Entries) : Option Entries :=
  changeAt true (fun origin t =>
    if (origin == .dotted) == path.isEmpty || (t.lookup name).isSome then none
    else some (put name (.value value) t)) path .opened entries

/-- Opens a table. -/
def openTable (path : List String) (name : String) (entries : Entries) : Option Entries :=
  changeAt false (fun _ t => match t.lookup name with
    | none => some (put name (.table .opened []) t)
    | some (.table .implied inner) => some (put name (.table .opened inner) t)
    | some _ => none) path .opened entries

/-- Opens the next table of a list. -/
def openNext (path : List String) (name : String) (entries : Entries) : Option Entries :=
  changeAt false (fun _ t => match t.lookup name with
    | none => some (put name (.tables [[]]) t)
    | some (.tables items) => some (put name (.tables ([] :: items)) t)
    | some _ => none) path .opened entries

/-! ## Statements -/

/-- A path and the last name on it. -/
structure Key where
  path : List String
  name : String

def Key.names (k : Key) : List String := k.path ++ [k.name]

inductive Statement where
  | entry (key : Key) (value : Setting)
  | table (key : Key)
  | nextTable (key : Key)

/-- A document and the path of the table that is open. -/
structure Document where
  entries : Entries
  current : List String

namespace Document

def empty : Document := ⟨[], []⟩

/-- Gives a value to a key of the open table. -/
def enter (d : Document) (key : Key) (value : Setting) : Option Document :=
  (changeAt false (fun _ t => give key.path key.name value t) d.current .opened d.entries).map
    ({ d with entries := · })

def add (d : Document) : Statement → Option Document
  | .entry key value => d.enter key value
  | .table key => (openTable key.path key.name d.entries).map (⟨·, key.names⟩)
  | .nextTable key => (openNext key.path key.name d.entries).map (⟨·, key.names⟩)

end Document

/-! ## Settings -/

mutual

def Node.setting : Node → Setting
  | .value v => v
  | .table _ entries => .table (settings entries)
  | .tables items => .list (tableSettings items).reverse

def settings : List (String × Node) → List (String × Setting)
  | [] => []
  | (name, node) :: rest => (name, node.setting) :: settings rest

def tableSettings : List (List (String × Node)) → List Setting
  | [] => []
  | entries :: rest => .table (settings entries) :: tableSettings rest

end

/-- The table of a document's settings. -/
def ofStatements? (statements : List Statement) : Option Setting :=
  (statements.foldlM Document.add .empty).map fun d => .table (settings d.entries)

/-- The table of the pairs between braces. -/
def ofPairs? (pairs : List (Key × Setting)) : Option Setting :=
  (pairs.foldlM (fun t p => give p.1.path p.1.name p.2 t) []).map fun t => .table (settings t)

end ChatBot.Toml
