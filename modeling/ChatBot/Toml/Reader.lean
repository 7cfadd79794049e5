/-
  ChatBot.Toml.Reader — reading a TOML text (version 1.0).

  A text is a sequence of lines, each with at most one statement and a comment. Values
  nest at most 79 lists or inline tables deep. Dates and times are recognised and checked;
  no setting reads one, and they stand for an empty table.
-/
import ChatBot.Calendar
import ChatBot.Decimal.Numeral
import ChatBot.Text.Parser
import ChatBot.Toml.Document

namespace ChatBot.Toml

open Text Parser

/-! ## Blanks, comments, lines -/

def isSpace (c : Char) : Bool := c == ' ' || c == '\t'

def skipSpace : Parser Unit := skipWhile isSpace

/-- A character that may stand in comments and strings. -/
def isPlain (c : Char) : Bool := c == '\t' || (' ' ≤ c && c != '\x7f')

def newline : Parser Unit := char '\n' <|> text "\r\n"

def comment : Parser Unit := do
  char '#'
  skipWhile isPlain

/-- Spaces, line ends and comments. -/
def skipLines : Parser Unit := do
  let _ ← many (newline <|> comment <|> do let _ ← one isSpace)

/-- The rest of a line after a statement. -/
def endOfLine : Parser Unit := do
  skipSpace
  let _ ← opt comment
  newline <|> atEnd

/-! ## Strings -/

def isHexDigit (c : Char) : Bool := isAsciiDigit c || ('a' ≤ c && c ≤ 'f') || ('A' ≤ c && c ≤ 'F')

def hexValue (cs : List Char) : Nat :=
  cs.foldl (fun n c => 16 * n + (if isAsciiDigit c then c.toNat - '0'.toNat else c.toLower.toNat - 'a'.toNat + 10)) 0

/-- A character given by its number in so many hexadecimal digits. -/
def numbered (digits : Nat) : Parser Char := do
  let n := hexValue (← (List.replicate digits ()).mapM fun () => one isHexDigit)
  if n.isValidChar then return Char.ofNat n else failure

/-- What follows the backslash of an escape. -/
def escapeBody : Parser Char := do
  match ← one fun _ => true with
  | 'b' => return '\x08'
  | 't' => return '\t'
  | 'n' => return '\n'
  | 'f' => return '\x0c'
  | 'r' => return '\r'
  | '"' => return '"'
  | '\\' => return '\\'
  | 'u' => numbered 4
  | 'U' => numbered 8
  | _ => failure

def escape : Parser Char := do
  char '\\'
  escapeBody

/-- A string between double quotes on one line. -/
def basicString : Parser (List Char) := do
  char '"'
  let cs ← many (one (fun c => isPlain c && c != '"' && c != '\\') <|> escape)
  char '"'
  return cs

/-- A string between single quotes on one line, without escapes. -/
def literalString : Parser (List Char) := do
  char '\x27'
  let cs ← takeWhile fun c => isPlain c && c != '\x27'
  char '\x27'
  return cs

/-- A backslash at the end of a line, with the blanks and line ends after it. -/
def continuation : Parser (List Char) := do
  char '\\'
  skipSpace
  newline
  let _ ← many (newline <|> do let _ ← one isSpace)
  return []

/-- At most two quotes, which do not end a string of several lines. -/
def innerQuotes (quote : Char) : Parser (List Char) := do
  let cs ← takeSome (· == quote)
  if cs.length ≤ 2 then return cs else failure

/-- Three quotes end a string of several lines; up to two more before them are part of
    it. -/
def closingQuotes (quote : Char) : Parser (List Char) := do
  let cs := (← rest).takeWhile (· == quote)
  let width := min cs.length 5
  text (String.ofList (List.replicate width quote))
  if width < 3 then failure else return List.replicate (width - 3) quote

/-- A string of several lines between three quotes; a line end after the first three is
    dropped. -/
def longString (quote : Char) (part : Parser (List Char)) : Parser (List Char) := do
  text (String.ofList [quote, quote, quote])
  let _ ← opt newline
  let parts ← many (part <|> innerQuotes quote <|> do newline; return ['\n'])
  return parts.flatten ++ (← closingQuotes quote)

def longBasicString : Parser (List Char) :=
  longString '"' (takeSome (fun c => isPlain c && c != '"' && c != '\\') <|> continuation <|>
    do return [← escape])

def longLiteralString : Parser (List Char) :=
  longString '\x27' (takeSome fun c => isPlain c && c != '\x27')

def anyString : Parser Setting := do
  let cs ← longBasicString <|> longLiteralString <|> basicString <|> literalString
  return .text (String.ofList cs)

/-! ## Numbers -/

/-- Digits of a class with single underscores between some of them. -/
def digitGroups (isDigit : Char → Bool) : Parser (List Char) := do
  let groups ← sepBy (char '_') (takeSome isDigit)
  return groups.flatten

def sign : Parser (List Char) := (return [← one fun c => c == '+' || c == '-']) <|> pure []

/-- A whole number in decimal digits without a leading zero, with its sign. -/
def wholeDigits : Parser (List Char) := do
  let s ← sign
  let ds ← digitGroups isAsciiDigit
  if ds.length > 1 && ds.head? == some '0' then failure else return s ++ ds

def fractionDigits : Parser (List Char) := do
  char '.'
  return '.' :: (← digitGroups isAsciiDigit)

def exponentDigits : Parser (List Char) := do
  let _ ← one fun c => c == 'e' || c == 'E'
  let s ← sign
  return 'e' :: s ++ (← digitGroups isAsciiDigit)

/-- A number with a point or an exponent, below infinity. -/
def float : Parser Setting := do
  let whole ← wholeDigits
  let fraction := (← opt fractionDigits).getD []
  let exponent := (← opt exponentDigits).getD []
  match Decimal.toFloat? (String.ofList (whole ++ fraction ++ exponent)) with
  | some x =>
    if (fraction.isEmpty && exponent.isEmpty) || x == Decimal.Binary64.infinity false then failure
    else return .number x
  | none => failure

/-- Infinity, or no number at all, with any sign. -/
def specialFloat : Parser Setting := do
  let s ← sign
  (do text "inf"; return .number (Decimal.Binary64.infinity (s == ['-']))) <|>
    (do text "nan"; return .number Decimal.Binary64.nan)

/-- A number below 2⁶³ in a base that its second character names. -/
def basedInteger (mark : Char) (base : Nat) (isDigit : Char → Bool) : Parser Setting := do
  char '0'
  char mark
  let n := (← digitGroups isDigit).foldl (fun n c => base * n + hexValue [c]) 0
  if n < 0x8000000000000000 then return .number (Decimal.Binary64.ofInt n) else failure

/-- A whole number of 64 bits. -/
def decimalInteger : Parser Setting := do
  let cs ← wholeDigits
  let n := Int.ofNat (Decimal.digitsValue (cs.filter isAsciiDigit))
  let n := if cs.head? == some '-' then -n else n
  if -0x8000000000000000 ≤ n && n < 0x8000000000000000 then return .number (Decimal.Binary64.ofInt n) else failure

def integer : Parser Setting :=
  basedInteger 'x' 16 isHexDigit <|> basedInteger 'o' 8 (fun c => '0' ≤ c && c ≤ '7') <|>
    basedInteger 'b' 2 (fun c => c == '0' || c == '1') <|> decimalInteger

/-! ## Dates and times -/

/-- A number of so many digits between bounds. -/
def digits (count least most : Nat) : Parser Nat := do
  let n := Decimal.digitsValue (← (List.replicate count ()).mapM fun () => one isAsciiDigit)
  if least ≤ n && n ≤ most then return n else failure

def date : Parser Unit := do
  let year ← digits 4 0 9999
  char '-'
  let month ← digits 2 1 12
  char '-'
  let _ ← digits 2 1 (Calendar.monthLength (12 * year + month - 1)).toNat

/-- A time of day; there may be a leap second. -/
def time : Parser Unit := do
  let _ ← digits 2 0 23
  char ':'
  let _ ← digits 2 0 59
  char ':'
  let _ ← digits 2 0 60
  let _ ← opt do
    char '.'
    takeSome isAsciiDigit

def offset : Parser Unit := do
  match ← one fun c => c == 'Z' || c == 'z' || c == '+' || c == '-' with
  | 'Z' | 'z' => return
  | _ =>
    let _ ← digits 2 0 23
    char ':'
    let _ ← digits 2 0 59

def moment : Parser Setting := do
  (do
    date
    let _ ← opt do
      let _ ← one fun c => c == 'T' || c == 't' || c == ' '
      time
      opt offset) <|> time
  return .empty

/-! ## Keys and values -/

def isKeyChar (c : Char) : Bool := isAsciiAlphanumeric c || c == '_' || c == '-'

def simpleKey : Parser String := do
  return String.ofList (← basicString <|> literalString <|> takeSome isKeyChar)

/-- Names with points between them, fewer than 80. -/
def key : Parser Key := do
  let names ← sepBy (do skipSpace; char '.'; skipSpace) simpleKey
  match names.reverse with
  | name :: path => if names.length < 80 then return ⟨path.reverse, name⟩ else failure
  | [] => failure

def pair (value : Parser Setting) : Parser (Key × Setting) := do
  let k ← key
  skipSpace
  char '='
  skipSpace
  return (k, ← value)

/-- A list over any number of lines; a comma may follow its last item. -/
def list (item : Parser Setting) : Parser Setting := do
  char '['
  skipLines
  let items ← opt (sepBy (do skipLines; char ','; skipLines) item)
  skipLines
  if items.isSome then
    let _ ← opt (char ',')
  skipLines
  char ']'
  return .list (items.getD [])

/-- A table on one line, without a comma after its last pair. -/
def inlineTable (value : Parser Setting) : Parser Setting := do
  char '\x7b'
  skipSpace
  let pairs ← opt (sepBy (do skipSpace; char ','; skipSpace) (pair value))
  skipSpace
  char '\x7d'
  match ofPairs? (pairs.getD []) with
  | some table => return table
  | none => failure

def flag : Parser Setting :=
  (do text "true"; return .flag true) <|> (do text "false"; return .flag false)

/-- A value in which lists and inline tables nest at most so deep. -/
def value : (depth : Nat) → Parser Setting
  | 0 => plain
  | depth + 1 => plain <|> list (value depth) <|> inlineTable (value depth)
where
  plain : Parser Setting := anyString <|> flag <|> moment <|> float <|> specialFloat <|> integer

/-! ## Statements -/

def nextTable : Parser Statement := do
  text "[["
  skipSpace
  let k ← key
  skipSpace
  text "]]"
  return .nextTable k

def table : Parser Statement := do
  char '['
  skipSpace
  let k ← key
  skipSpace
  char ']'
  return .table k

def entry : Parser Statement := do
  let (k, v) ← pair (value 79)
  return .entry k v

def line : Parser (Option Statement) := do
  skipSpace
  let statement ← opt (nextTable <|> table <|> entry)
  endOfLine
  return statement

/-- The table of settings that a text writes; a byte order mark may come first. -/
def parse? (text : String) : Option Setting := do
  let cs := match text.toList with
    | c :: cs => if c.toNat == 0xfeff then cs else c :: cs
    | [] => []
  let lines ← readAll? (many line) cs
  ofStatements? (lines.filterMap id)

end ChatBot.Toml
