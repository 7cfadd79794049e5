/-
  ChatBot.Toml.Writer — writing a table of settings as a TOML text.

  A table gives its plain values first, then its tables, each after a blank line under
  its path. A string is written in the first of several ways that needs no escape, a list
  of two or more items with each item on a line of its own.
-/
import ChatBot.Decimal.Shortest
import ChatBot.Settings.Basic

namespace ChatBot.Toml

/-! ## Strings -/

/-- A character that cannot stand in any string as it is. -/
def isControl (c : Char) : Bool := (c < ' ' && c != '\t' && c != '\n') || c == '\x7f'

/-- Some place holds `n` of these characters in a row. -/
def hasRun (c : Char) : (n : Nat) → (soFar : Nat) → List Char → Bool
  | n, soFar, [] => n ≤ soFar
  | n, soFar, d :: ds => n ≤ soFar || hasRun c n (if d == c then soFar + 1 else 0) ds

/-- The four uppercase hexadecimal digits of a control character. -/
def fourDigits (n : Nat) : List Char :=
  ['0', '0', (Nat.digitChar (n / 16)).toUpper, (Nat.digitChar (n % 16)).toUpper]

/-- The escape that a character needs between double quotes. -/
def escaped (keepNewline : Bool) (c : Char) : List Char :=
  if c == '"' then ['\\', '"']
  else if c == '\\' then ['\\', '\\']
  else if c == '\x08' then ['\\', 'b']
  else if c == '\t' then ['\\', 't']
  else if c == '\n' then if keepNewline then [c] else ['\\', 'n']
  else if c == '\x0c' then ['\\', 'f']
  else if c == '\r' then ['\\', 'r']
  else if isControl c then ['\\', 'u'] ++ fourDigits c.toNat
  else [c]

/-- Between double quotes on one line. -/
def basic (cs : List Char) : List Char := '"' :: cs.flatMap (escaped false) ++ ['"']

/-- Characters between three quotes; a line end comes first if there is one among them. -/
def long (quote : Char) (hasNewline : Bool) (cs : List Char) : List Char :=
  let quotes := [quote, quote, quote]
  quotes ++ (if hasNewline then ['\n'] else []) ++ cs ++ quotes

/-- The characters with their escapes, for a string of several lines between double
    quotes: a quote stays as it is unless two stand before it. -/
def longEscaped : (quotes : Nat) → List Char → List Char
  | _, [] => []
  | quotes, c :: cs =>
    if c == '"' then
      if quotes < 2 then '"' :: longEscaped (quotes + 1) cs else '\\' :: '"' :: longEscaped 0 cs
    else escaped true c ++ longEscaped 0 cs

/-- A string in the first way that suits it: plain on one line, without escapes on one
    line, plain on several, without escapes on several, and else with escapes. -/
def string (cs : List Char) : List Char :=
  let hasNewline := cs.contains '\n'
  let hasControl := cs.any isControl
  let hasBackslash := cs.contains '\\'
  if !hasControl && !hasBackslash && !cs.contains '"' && !hasNewline then basic cs
  else if !hasControl && !cs.contains '\x27' && !hasNewline then '\x27' :: cs ++ ['\x27']
  else if !hasControl && !hasBackslash && !hasRun '"' 3 0 cs then long '"' hasNewline (longEscaped 0 cs)
  else if !hasControl && !hasRun '\x27' 3 0 cs then long '\x27' hasNewline cs
  else if hasNewline then long '"' hasNewline (longEscaped 0 cs)
  else basic cs

/-! ## Values -/

/-- A number, with a point unless it is infinite or none. -/
def number (x : Float) : String :=
  if Decimal.Binary64.isNaN x then "nan"
  else if Decimal.Binary64.isWhole x then Decimal.ofFloat x ++ ".0"
  else Decimal.ofFloat x

mutual

/-- A value on the right of a key. -/
def inlineText : Setting → String
  | .text s => String.ofList (string s.toList)
  | .number x => number x
  | .flag b => if b then "true" else "false"
  | .list items =>
    if items.length ≤ 1 then "[" ++ String.join (itemTexts items) ++ "]"
    else "[\n" ++ String.join ((itemTexts items).map fun i => "    " ++ i ++ ",\n") ++ "]"
  | .table entries =>
    if entries.isEmpty then "\x7b\x7d" else "\x7b " ++ ", ".intercalate (pairTexts entries) ++ " \x7d"

def itemTexts : List Setting → List String
  | [] => []
  | item :: items => inlineText item :: itemTexts items

/-- Pairs of a name and a value. -/
def pairTexts : List (String × Setting) → List String
  | [] => []
  | (name, value) :: rest => (name ++ " = " ++ inlineText value) :: pairTexts rest

end

/-! ## Tables -/

/-- The plain values of a table. -/
def plainEntries (entries : List (String × Setting)) : List (String × Setting) :=
  entries.filter fun e => match e.2 with
    | .table _ => false
    | _ => true

mutual

/-- The parts of a text that stand under a path, blank lines between them. -/
def sections (path : List String) (entries : List (String × Setting)) : List String :=
  let header := if path.isEmpty then [] else ["[" ++ ".".intercalate path ++ "]"]
  String.join ((header ++ pairTexts (plainEntries entries)).map (· ++ "\n")) :: subsections path entries

def subsections (path : List String) : List (String × Setting) → List String
  | [] => []
  | (name, .table inner) :: rest => sections (path ++ [name]) inner ++ subsections path rest
  | _ :: rest => subsections path rest

end

/-- The text of a table of settings whose names are plain words. -/
def render : Setting → String
  | .table entries => "\n".intercalate (sections [] entries)
  | value => inlineText value

end ChatBot.Toml
