/-
  ChatBot.Files.Tree — directories and files in memory.

  A path is followed name by name from the root or from the working directory
  (`FileTree.enter`); every name but the last has to lead to a directory. The working
  directory and those around it are always there. What is done to files is said once for
  a tree and for the disk (`FileAccess`).
-/
import ChatBot.Files.Path

namespace ChatBot

/-- Why a file or directory cannot be used. -/
inductive FileError where
  | missing
  | alreadyThere
  | notDirectory
  | isDirectory
  | nameTooLong
  /-- A name has a zero character in it. -/
  | zeroInName
  deriving DecidableEq

def FileError.message : FileError → String
  | .missing => "No such file or directory (os error 2)"
  | .alreadyThere => "File exists (os error 17)"
  | .notDirectory => "Not a directory (os error 20)"
  | .isDirectory => "Is a directory (os error 21)"
  | .nameTooLong => "File name too long (os error 36)"
  | .zeroInName => "file name contained an unexpected NUL byte"

/-- The names from a place up to the root. -/
abbrev Location := List String

inductive FileEntry where
  | directory
  | file (text : String)
  deriving DecidableEq

structure FileTree where
  /-- The working directory. -/
  here : Location
  /-- What else there is, every location once. -/
  entries : List (Location × FileEntry)

namespace FileTree

/-- Files by their names in the working directory, and nothing else. -/
def ofFiles (here : Location) (files : List (String × String)) : FileTree :=
  ⟨here, files.map fun f => (f.1 :: here, .file f.2)⟩

def entry? (t : FileTree) (l : Location) : Option FileEntry :=
  if l.isSuffixOf t.here then some .directory else t.entries.lookup l

def isDirectory (t : FileTree) (l : Location) : Bool := t.entry? l == some .directory

def put (t : FileTree) (l : Location) (e : FileEntry) : FileTree :=
  { t with entries := (l, e) :: t.entries.filter (·.1 != l) }

/-! ## Following a path -/

/-- The bytes that a name may have. -/
def nameLimit : Nat := 255

/-- The bytes that a path may have. -/
def pathLimit : Nat := 4095

/-- Where a name leads from a directory, whether anything is there or not. -/
def step (t : FileTree) (l : Location) (name : String) : Except FileError Location :=
  if !t.isDirectory l then .error .notDirectory
  else if name == "." then .ok l
  else if name == ".." then .ok l.tail
  else if nameLimit < name.utf8ByteSize then .error .nameTooLong
  else .ok (name :: l)

/-- A step to something that is there. -/
def enter (t : FileTree) (l : Location) (name : String) : Except FileError Location := do
  let l ← t.step l name
  if (t.entry? l).isSome then return l else throw .missing

/-- Where a path begins. -/
def start (t : FileTree) (p : Path) : Except FileError Location :=
  if p.names.any (·.toList.contains '\x00') then .error .zeroInName
  else if pathLimit < p.text.utf8ByteSize then .error .nameTooLong
  else if p.isBlank then .error .missing
  else .ok (if p.fromRoot then [] else t.here)

/-- Where a path leads. -/
def find (t : FileTree) (p : Path) : Except FileError Location := do
  let l ← p.names.foldlM t.enter (← t.start p)
  if p.slashAfter && !t.isDirectory l then throw .notDirectory else return l

/-- The directory that the last name of a path belongs to. -/
def around (t : FileTree) (p : Path) : Except FileError Location := do
  let l ← p.names.dropLast.foldlM t.enter (← t.start p)
  if t.isDirectory l then return l else throw .notDirectory

def present (t : FileTree) (p : Path) : Bool := (t.find p).isOk

/-- The text of the file that a path leads to. -/
def text? (t : FileTree) (p : Path) : Option String :=
  match (t.find p).toOption.bind t.entry? with
  | some (.file text) => some text
  | _ => none

/-! ## Changes -/

/-- The last name of a path; the root is its own. -/
def lastName (p : Path) : String := p.names.getLastD "."

def makeDirectory (t : FileTree) (p : Path) : Except FileError FileTree := do
  let l ← t.step (← t.around p) (lastName p)
  if (t.entry? l).isSome then throw .alreadyThere else return t.put l .directory

/-- Makes a directory unless it is there. -/
def ensureDirectory (t : FileTree) (p : Path) : Except FileError FileTree :=
  match t.makeDirectory p, t.find p with
  | .ok t, _ => .ok t
  | .error e, .ok l => if t.isDirectory l then .ok t else .error e
  | .error e, .error _ => .error e

/-- Makes the directory of these names, the last one first, and those on the way to it
    where they are missing. -/
def ensureAll (t : FileTree) (fromRoot : Bool) : List String → Except FileError FileTree
  | [] => .ok t
  | name :: outer =>
    let p : Path := ⟨fromRoot, (name :: outer).reverse, false⟩
    match t.ensureDirectory p with
    | .error .missing => do (← ensureAll t fromRoot outer).ensureDirectory p
    | result => result

def makeDirectories (t : FileTree) (p : Path) : Except FileError FileTree :=
  t.ensureAll p.fromRoot p.names.reverse

/-- Makes a file, in place of one that is there. -/
def write (t : FileTree) (p : Path) (text : String) : Except FileError FileTree := do
  let outer ← t.around p
  if p.slashAfter then throw .isDirectory
  let l ← t.step outer (lastName p)
  if t.isDirectory l then throw .isDirectory else return t.put l (.file text)

end FileTree

/-! ## Access -/

/-- What a program does to files. -/
class FileAccess (m : Type → Type) where
  /-- Something is at a path. -/
  present : Path → m Bool
  /-- Makes a directory and those on the way to it. -/
  makeDirectories : Path → m Unit
  write : Path → String → m Unit

/-- Changes to a tree, up to the first that fails. -/
abbrev FileChange := StateT FileTree (Except FileError)

instance : FileAccess FileChange where
  present p := return (← get).present p
  makeDirectories p := do set (← (← get).makeDirectories p)
  write p text := do set (← (← get).write p text)

end ChatBot
