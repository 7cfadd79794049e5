/-
  ChatBot.Settings.Basic — settings as sources write them, and how a later source
  overrides an earlier one.

  Only tables are merged, entry by entry; of everything else the later value counts whole.
-/
import ChatBot.Text.Blank

namespace ChatBot

/-- A setting, or a table of settings by name. -/
inductive Setting where
  | text (text : String)
  | number (value : Float)
  | flag (isSet : Bool)
  | list (items : List Setting)
  /-- Every name once. -/
  | table (entries : List (String × Setting))

namespace Setting

def empty : Setting := .table []

mutual

/-- The setting with a later one over it. -/
def overlay (earlier later : Setting) : Setting :=
  match earlier, later with
  | .table entries, .table laters =>
    .table (overlayEntries entries laters ++ laters.filter fun e => !entries.any (·.1 == e.1))
  | _, later => later

/-- Entries, each with the later value of its name over it. -/
def overlayEntries (entries laters : List (String × Setting)) : List (String × Setting) :=
  match entries with
  | [] => []
  | (name, value) :: rest =>
    (name, match laters.lookup name with
      | some later => overlay value later
      | none => value) :: overlayEntries rest laters

end

/-- A value at a path of names, in a table of its own. -/
def nested (path : List String) (value : Setting) : Setting :=
  path.foldr (fun name inner => .table [(name, inner)]) value

/-! ## Reading -/

def text? : Setting → Option String
  | .text s => some s
  | _ => none

def number? : Setting → Option Float
  | .number x => some x
  | _ => none

def flag? : Setting → Option Bool
  | .flag b => some b
  | _ => none

def texts? : Setting → Option (List String)
  | .list items => items.mapM text?
  | _ => none

/-- The values of these names; a list gives them by place. Other names and places do not
    matter. -/
def fields? (names : List String) : Setting → Option (List (Option Setting))
  | .table entries => some (names.map fun name => entries.lookup name)
  | .list items => some ((List.range names.length).map fun place => items[place]?)
  | _ => none

/-- What is read of a field, with a default for one that is missing. -/
def orStandard {α : Type} (read : Setting → Option α) (standard : α) : Option Setting → Option α
  | some value => read value
  | none => some standard

end Setting

end ChatBot
