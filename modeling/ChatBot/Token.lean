/-
  ChatBot.Token — the words of a message with the bytes that they span, and the marker
  that makes a message an invocation.

  Both are cut out of the text at bytes, which can be done only where a character begins
  or the text ends (`splitAtByte?`, `slice?`).
-/
import ChatBot.Text.Blank
import ChatBot.Text.Ascii

namespace ChatBot

open Text

/-- A word of a text, from byte `start` up to byte `stop`. -/
structure Token where
  text : String
  start : Nat
  stop : Nat
  deriving DecidableEq

/-! ## Bytes -/

/-- The bytes of a text in UTF-8. -/
def byteWidth : List Char → Nat
  | [] => 0
  | c :: cs => c.utf8Size + byteWidth cs

/-- A text in front of byte `n` and from there on; none inside a character and behind the end. -/
def splitAtByte? : (n : Nat) → List Char → Option (List Char × List Char)
  | 0, cs => some ([], cs)
  | _ + 1, [] => none
  | n + 1, c :: cs =>
    if c.utf8Size ≤ n + 1 then
      (splitAtByte? (n + 1 - c.utf8Size) cs).map fun parts => (c :: parts.1, parts.2)
    else none

/-- The characters from byte `start` up to byte `stop`; none where a text cannot be cut. -/
def slice? (cs : List Char) (start stop : Nat) : Option (List Char) :=
  if start ≤ stop then
    (splitAtByte? start cs).bind fun parts => (splitAtByte? (stop - start) parts.2).map Prod.fst
  else none

/-! ## Words -/

namespace Token

/-- The token from byte `start` up to byte `stop`; it has no text where the text cannot be cut there. -/
def cut (text : List Char) (start stop : Nat) : Token :=
  ⟨String.ofList ((slice? text start stop).getD []), start, stop⟩

/-- The tokens of a text from byte `place` on, where `begun` is the byte at which a word
    began that has not ended yet. -/
def scan (text : List Char) (place : Nat) (begun : Option Nat) : List Char → List Token
  | [] => (begun.map fun start => cut text start (byteWidth text)).toList
  | c :: cs =>
    if isBlank c then
      (begun.map fun start => cut text start place).toList ++ scan text (place + c.utf8Size) none cs
    else scan text (place + c.utf8Size) (some (begun.getD place)) cs

end Token

/-- The words of a text with their places. -/
def tokenize (text : String) : List Token := Token.scan text.toList 0 none text.toList

/-! ## The marker -/

/-- What follows the marker in a message that begins with it, up to leading blanks and
    the case of ASCII letters. No message begins with the empty marker. -/
def stripMarker (content marker : String) : Option String :=
  let text := trimStart content.toList
  let width := byteWidth marker.toList
  if marker.isEmpty || byteWidth text < width then none
  else (splitAtByte? width text).bind fun parts =>
    if alike (String.ofList parts.1) marker then some (String.ofList parts.2) else none

end ChatBot
