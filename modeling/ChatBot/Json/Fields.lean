/-
  ChatBot.Json.Fields — reading a JSON value as what it stands for.

  A thing with fields is written as a record, where names that are not asked for are
  passed over, or as a list of its fields in order, of which only such may be left out at
  the end that have a default. One of several things is written as a record with one
  member, named for which it is.
-/
import ChatBot.Decimal.Numeral
import ChatBot.Json.Basic

namespace ChatBot.Json

/-! ## Plain values -/

def bool? : Json → Option Bool
  | .bool b => some b
  | _ => none

def text? : Json → Option String
  | .string text => text
  | _ => none

/-- A whole number, written with digits alone, below `limit`. -/
def natBelow? (limit : Nat) : Json → Option Nat
  | .number literal => Decimal.toNatBelow? limit literal
  | _ => none

def listOf? {α : Type} (read : Json → Option α) : Json → Option (List α)
  | .list items => items.mapM read
  | _ => none

def texts? : Json → Option (List String) := listOf? text?

/-- Null, or a value. -/
def nullable {α : Type} (read : Json → Option α) : Json → Option (Option α)
  | .null => some none
  | value => (read value).map some

/-! ## Fields -/

/-- What is written for a field. -/
inductive Field where
  | given (value : Json)
  /-- A record without the name. -/
  | omitted
  /-- A list that ends before. -/
  | cut

namespace Field

def required {α : Type} (read : Json → Option α) : Field → Option α
  | .given value => read value
  | _ => none

/-- A value or null; a record may leave the field out. -/
def optional {α : Type} (read : Json → Option α) : Field → Option (Option α)
  | .given value => nullable read value
  | .omitted => some none
  | .cut => none

/-- A value, with a default for a field that is left out. -/
def withDefault {α : Type} (standard : α) (read : Json → Option α) : Field → Option α
  | .given value => read value
  | _ => some standard

end Field

/-- The values of a name among members. -/
def valuesOf (name : String) (members : List (Option String × Json)) : List Json :=
  members.filterMap fun m => if m.1 == some name then some m.2 else none

/-- What a record gives for a name, which may be there once. -/
def fieldOf? (members : List (Option String × Json)) (name : String) : Option Field :=
  match valuesOf name members with
  | [] => some .omitted
  | [value] => some (.given value)
  | _ => none

/-- The fields of these names, in order. Every name of a record has to be a text. -/
def fields? (names : List String) : Json → Option (List Field)
  | .record members => if members.all (·.1.isSome) then names.mapM (fieldOf? members) else none
  | .list items =>
    if items.length ≤ names.length then
      some (items.map .given ++ List.replicate (names.length - items.length) .cut)
    else none
  | _ => none

/-! ## Alternatives -/

/-- The name and the contents of an alternative. -/
def alternative? : Json → Option (String × Json)
  | .record [(some name, value)] => some (name, value)
  | _ => none

/-- An alternative without contents: its name, or its name with null. -/
def bareAlternative? (value : Json) : Option String :=
  match value with
  | .string name => name
  | value => match alternative? value with
    | some (name, .null) => some name
    | _ => none

end ChatBot.Json
