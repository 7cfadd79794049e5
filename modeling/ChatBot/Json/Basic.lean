/-
  ChatBot.Json.Basic — JSON values, and their indented text.

  A number keeps its literal. A string may be one that is no text: escapes can write half
  a surrogate pair. Members keep their order, and a name may be there more than once.
-/
import ChatBot.Digest.Sha256

namespace ChatBot

inductive Json where
  | null
  | bool (value : Bool)
  | number (literal : String)
  | string (text : Option String)
  | list (items : List Json)
  | record (members : List (Option String × Json))

namespace Json

def ofText (text : String) : Json := .string (some text)

def ofNat (n : Nat) : Json := .number (toString n)

/-- A text, or null. -/
def ofText? : Option String → Json
  | some text => ofText text
  | none => .null

def ofTexts (texts : List String) : Json := .list (texts.map ofText)

/-- Members with names that are texts. -/
def ofMembers (members : List (String × Json)) : Json := .record (members.map fun m => (some m.1, m.2))

/-! ## Writing -/

/-- The escape that a character needs in a string. -/
def escape (c : Char) : List Char :=
  if c == '"' then ['\\', '"']
  else if c == '\\' then ['\\', '\\']
  else if c == '\x08' then ['\\', 'b']
  else if c == '\t' then ['\\', 't']
  else if c == '\n' then ['\\', 'n']
  else if c == '\x0c' then ['\\', 'f']
  else if c == '\r' then ['\\', 'r']
  else if c < ' ' then ['\\', 'u', '0', '0'] ++ (Digest.hex [UInt8.ofNat c.toNat]).toList
  else [c]

def quoted (text : String) : String := String.ofList ('"' :: text.toList.flatMap escape ++ ['"'])

/-- Items on lines of their own between brackets, the closing one at `margin`. -/
def block (opening closing margin : String) (items : List String) : String :=
  if items.isEmpty then opening ++ closing
  else opening ++ "\n" ++ String.intercalate ",\n" (items.map fun i => margin ++ "  " ++ i) ++
    "\n" ++ margin ++ closing

mutual

/-- The text of a value whose first line stands after `margin`, two spaces a level. -/
def prettyAt (margin : String) : Json → String
  | .null => "null"
  | .bool b => if b then "true" else "false"
  | .number literal => literal
  | .string text => quoted (text.getD "")
  | .list items => block "[" "]" margin (prettyItems (margin ++ "  ") items)
  | .record members => block "\x7b" "\x7d" margin (prettyMembers (margin ++ "  ") members)

def prettyItems (margin : String) : List Json → List String
  | [] => []
  | item :: items => prettyAt margin item :: prettyItems margin items

def prettyMembers (margin : String) : List (Option String × Json) → List String
  | [] => []
  | (name, value) :: members =>
    (quoted (name.getD "") ++ ": " ++ prettyAt margin value) :: prettyMembers margin members

end

def pretty (value : Json) : String := prettyAt "" value

end Json

end ChatBot
