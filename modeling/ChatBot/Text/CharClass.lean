/-
  ChatBot.Text.CharClass — Unicode character classes: decimal digits, alphanumeric
  characters, word characters.
-/
import ChatBot.Text.AlphabeticTable
import ChatBot.Text.WordTable

namespace ChatBot.Text

/-- A code point inside one of the ranges. -/
def inRanges (ranges : List (Nat × Nat)) (n : Nat) : Bool :=
  ranges.any fun r => r.1 ≤ n && n ≤ r.2

/-- Decimal digits of any script (general category Nd). -/
def isDecimal (c : Char) : Bool :=
  decimalZeros.any fun z => z ≤ c.toNat && c.toNat ≤ z + 9

/-- Alphabetic characters and numbers of any script. -/
def isAlphanumeric (c : Char) : Bool :=
  inRanges alphabeticRanges c.toNat || inRanges numberRanges c.toNat

/-- Word characters: alphabetic characters but the youngest, marks, decimal digits,
    connector punctuation and the two join controls. -/
def isWord (c : Char) : Bool :=
  (inRanges alphabeticRanges c.toNat && !inRanges youngerRanges c.toNat) ||
    inRanges wordMarkRanges c.toNat || isDecimal c

end ChatBot.Text
