/-
  ChatBot.Json.Token — the tokens of a JSON text.

  The text is read character by character (`Lexer.step`). Marks stand for themselves, a
  string goes from quote to quote, and whatever else stands together is a word: `null`,
  `true`, `false` or a numeral. A control character inside a string, an unknown escape and
  any other word are errors.
-/
import ChatBot.Json.Basic
import ChatBot.Text.Ascii
import ChatBot.Text.Pattern

namespace ChatBot.Json

open Text

inductive Token where
  | openList | closeList | openRecord | closeRecord | comma | colon
  | string (text : Option String)
  /-- A literal other than a string. -/
  | literal (value : Json)

/-! ## Strings -/

/-- What a string is written of: characters, and UTF-16 units by number. -/
inductive Piece where
  | char (c : Char)
  | unit (n : Nat)

/-- The text of a string, unless it has a surrogate without its partner. -/
def textOf : List Piece → Option (List Char)
  | [] => some []
  | .char c :: ps => (textOf ps).map (c :: ·)
  | .unit n :: ps =>
    if n < 0xd800 || 0xe000 ≤ n then (textOf ps).map (Char.ofNat n :: ·)
    else match ps with
      | .unit m :: ps =>
        if n < 0xdc00 && 0xdc00 ≤ m && m < 0xe000 then
          (textOf ps).map (Char.ofNat (0x10000 + (n - 0xd800) * 0x400 + (m - 0xdc00)) :: ·)
        else none
      | _ => none

def hexDigit? (c : Char) : Option Nat :=
  if isAsciiDigit c then some (c.toNat - '0'.toNat)
  else if 'a' ≤ c && c ≤ 'f' then some (c.toNat - 'a'.toNat + 10)
  else if 'A' ≤ c && c ≤ 'F' then some (c.toNat - 'A'.toNat + 10)
  else none

/-- The characters that follow a backslash, and what they stand for. -/
def escapes : List (Char × Char) := [
  ('"', '"'), ('\\', '\\'), ('/', '/'), ('b', '\x08'), ('f', '\x0c'), ('n', '\n'), ('r', '\r'), ('t', '\t')]

/-! ## Words -/

/-- A numeral: no sign but a minus, no leading zeros, digits on both sides of a point. -/
def numeral : Pattern :=
  let digits := Pattern.atLeastOne isAsciiDigit
  .seqAll [.start, .optional (.text "-"),
    .alt (.text "0") (.seq (.one fun c => '1' ≤ c && c ≤ '9') (.many isAsciiDigit)),
    .optional (.seq (.text ".") digits),
    .optional (.seqAll [.one fun c => c == 'e' || c == 'E', .optional (.one fun c => c == '+' || c == '-'), digits]),
    .stop]

def word? (cs : List Char) : Option Json :=
  let word := String.ofList cs
  if word == "null" then some .null
  else if word == "true" then some (.bool true)
  else if word == "false" then some (.bool false)
  else if numeral.isMatch cs then some (.number word)
  else none

def isSpace (c : Char) : Bool := c == ' ' || c == '\n' || c == '\t' || c == '\r'

/-- The token of a mark. -/
def mark? (c : Char) : Option Token :=
  [('[', Token.openList), (']', .closeList), ('\x7b', .openRecord), ('\x7d', .closeRecord), (',', .comma),
    (':', .colon)].lookup c

/-! ## The lexer -/

/-- What the next character belongs to. Words and pieces begin with the last one. -/
inductive Reading where
  | nothing
  | word (chars : List Char)
  | string (pieces : List Piece)
  /-- After a backslash. -/
  | escape (pieces : List Piece)
  /-- Inside a four-digit escape, with the digits still to come and the number so far. -/
  | hex (left value : Nat) (pieces : List Piece)

structure Lexer where
  reading : Reading
  /-- The tokens so far, the last one first. -/
  tokens : List Token

namespace Lexer

def emit (l : Lexer) (t : Token) : Lexer := ⟨.nothing, t :: l.tokens⟩

/-- A character outside words and strings. -/
def begin (l : Lexer) (c : Char) : Lexer :=
  match mark? c with
  | some t => l.emit t
  | none =>
    if isSpace c then { l with reading := .nothing }
    else if c == '"' then { l with reading := .string [] }
    else { l with reading := .word [c] }

def isInsideWord (c : Char) : Bool := (mark? c).isNone && !isSpace c && c != '"'

def step (l : Lexer) (c : Char) : Option Lexer :=
  match l.reading with
  | .nothing => some (l.begin c)
  | .word chars =>
    if isInsideWord c then some { l with reading := .word (c :: chars) }
    else (word? chars.reverse).map fun v => (l.emit (.literal v)).begin c
  | .string pieces =>
    if c == '"' then some (l.emit (.string ((textOf pieces.reverse).map String.ofList)))
    else if c == '\\' then some { l with reading := .escape pieces }
    else if c < ' ' then none
    else some { l with reading := .string (.char c :: pieces) }
  | .escape pieces =>
    if c == 'u' then some { l with reading := .hex 4 0 pieces }
    else (escapes.lookup c).map fun e => { l with reading := .string (.char e :: pieces) }
  | .hex left value pieces =>
    (hexDigit? c).map fun d =>
      let value := 16 * value + d
      { l with reading := if left ≤ 1 then .string (.unit value :: pieces) else .hex (left - 1) value pieces }

/-- The tokens, when the text may end here. -/
def finish (l : Lexer) : Option (List Token) :=
  match l.reading with
  | .nothing => some l.tokens.reverse
  | .word chars => (word? chars.reverse).map fun v => (Token.literal v :: l.tokens).reverse
  | _ => none

end Lexer

/-- The tokens of a text. -/
def tokens? (text : String) : Option (List Token) :=
  (text.toList.foldlM Lexer.step ⟨.nothing, []⟩).bind Lexer.finish

end ChatBot.Json
