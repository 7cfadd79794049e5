/-
  ChatBot.Settings.Environment — settings in environment variables.

  A variable whose name begins with a given text, in any case, gives the setting that the
  rest of its name says, two underscores or a point leading into a table. Its value is a
  flag, a number, a list, a table, a quoted string or character, or else a text.
-/
import ChatBot.Decimal.Numeral
import ChatBot.Settings.Basic
import ChatBot.Text.Ascii
import ChatBot.Text.Parser
import ChatBot.Text.Split

namespace ChatBot.Settings.Environment

open Text Parser

/-! ## Values -/

def isSpace (c : Char) : Bool := c == ' ' || c == '\t' || c == '\n' || c == '\x0c' || c == '\r'

def skipSpace : Parser Unit := skipWhile isSpace

/-- A character that does not end a bare value. -/
def isBare (c : Char) : Bool := !(c == ',' || c == '\x7b' || c == '\x7d' || c == '[' || c == ']')

def hexDigit : Parser Nat := do
  let c ← one fun c => isAsciiDigit c || ('a' ≤ c.toLower && c.toLower ≤ 'f')
  return if isAsciiDigit c then c.toNat - '0'.toNat else c.toLower.toNat - 'a'.toNat + 10

/-- A character given by its number in so many hexadecimal digits. -/
def numbered (digits : Nat) : Parser Char := do
  let n := (← (List.replicate digits ()).mapM fun () => hexDigit).foldl (fun n d => 16 * n + d) 0
  if n.isValidChar then return Char.ofNat n else failure

def escape : Parser Char := do
  char '\\'
  match ← one fun _ => true with
  | '"' => return '"'
  | '\\' => return '\\'
  | 'b' => return '\x08'
  | 'f' => return '\x0c'
  | 'n' => return '\n'
  | 'r' => return '\r'
  | 't' => return '\t'
  | 'u' => numbered 4
  | 'U' => numbered 8
  | _ => failure

/-- A character that stands for itself between double quotes. -/
def isPlain (c : Char) : Bool := c != '"' && c != '\\' && (c == '\t' || (' ' ≤ c && c != '\x7f'))

/-- The characters at the front that take at most so many bytes in UTF-8. -/
def withinBytes : Nat → List Char → List Char
  | _, [] => []
  | size, c :: cs => if c.utf8Size ≤ size then c :: withinBytes (size - c.utf8Size) cs else []

/-- A text between double quotes. Of the characters before the first escape only as many
    bytes are kept as there are characters, which cuts it short after one beyond ASCII. -/
def quoted : Parser String := do
  char '"'
  let front ← takeWhile isPlain
  let others ← many (escape <|> one isPlain)
  char '"'
  return String.ofList ((if others.isEmpty then front else withinBytes front.length front) ++ others)

def isKeyChar (c : Char) : Bool := isAsciiAlphanumeric c || c == '_' || c == '-'

def key : Parser String := quoted <|> do return String.ofList (← takeSome isKeyChar)

def pair (value : Parser Setting) : Parser (String × Setting) := do
  skipSpace
  let k ← key
  skipSpace
  char '='
  skipSpace
  let v ← value
  skipSpace
  return (k, v)

/-- Items with commas between them, one of which may follow the last item. -/
def delimited {α : Type} (opening closing : Char) (item : Parser α) : Parser (List α) := do
  char opening
  if (← peek) == some closing then
    char closing
    return []
  else
    let items ← sepBy (char ',') (do if (← peek) == some closing then failure else item)
    let _ ← opt (char ',')
    char closing
    return items

/-- A whole number of 64 bits, of which only the negative ones have a minus. -/
def whole? (s : String) : Option Int :=
  match s.toList with
  | '-' :: ds => (Decimal.toNatBelow? 0x8000000000000001 (String.ofList ds)).bind fun n =>
    if ds.head? == some '+' then none else some (-n)
  | _ => (Decimal.toNatBelow? 0x10000000000000000 s).map Int.ofNat

/-- A bare value: a number with a point, a whole number, or a text. -/
def bareValue (s : String) : Setting :=
  match (if s.toList.contains '.' then Decimal.toFloat? s else none), whole? s with
  | some x, _ => .number x
  | none, some n => .number (Decimal.Binary64.ofInt n)
  | none, none => .text s

/-- The entries, a later one for the same name winning. -/
def tableOf (entries : List (String × Setting)) : Setting :=
  entries.foldl (fun t e => match t with
    | .table es => .table ((es.filter fun f => f.1 != e.1) ++ [e])
    | t => t) .empty

def bare : Parser Setting := do return bareValue (trimmed (String.ofList (← takeWhile isBare)))

/-- A value in which lists and tables nest at most so deep. -/
def value : (depth : Nat) → Parser Setting
  | 0 => failure
  | depth + 1 => do
    skipSpace
    let v ← (do text "true"; return .flag true) <|> (do text "false"; return .flag false) <|> do
      match ← peek with
      | some '\x7b' => return tableOf (← delimited '\x7b' '\x7d' (pair (value depth)))
      | some '[' => return .list (← delimited '[' ']' (value depth))
      | some '"' => return .text (← quoted)
      | some '\x27' =>
        char '\x27'
        let c ← one fun _ => true
        char '\x27'
        return .text (String.singleton c)
      | _ => bare
    skipSpace
    return v

/-- The value of a variable; a text that is none of the others counts as it is. -/
def ofText (text : String) : Setting :=
  (readAll? (value (text.length + 1)) text.toList).getD (.text text)

/-! ## Names -/

/-- The path of a setting: the name in lowercase between points and double underscores,
    unless one of the pieces is empty. -/
def path? (name : List Char) : Option (List String) :=
  let name := trim ((splitOn ['_', '_'] name).intersperse ['.']).flatten
  let pieces := splitOn ['.'] (name.map Char.toLower)
  if pieces.any (·.isEmpty) then none else some (pieces.map String.ofList)

/-- The setting of one variable. -/
def setting? (head : String) (name value : String) : Option Setting := do
  let rest ← dropAlike head.toList (trim name.toList)
  return .nested (← path? rest) (ofText value)

/-- The settings of all variables, a later one over an earlier one. -/
def settings (head : String) (vars : List (String × String)) : Setting :=
  (vars.filterMap fun v => setting? head v.1 v.2).foldl .overlay .empty

end ChatBot.Settings.Environment
