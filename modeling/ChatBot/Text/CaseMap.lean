/-
  ChatBot.Text.CaseMap — full Unicode case mapping.

  A character maps to one or more characters: `İ` is lowercased to `i` with a dot above,
  `ß` is uppercased to `SS`. A capital sigma is lowercased by its place: final at the end
  of a word, medial elsewhere (`endsWord`).
-/
import ChatBot.Text.CaseTable
import ChatBot.Text.CharClass

namespace ChatBot.Text

/-- The code point that a table of runs gives, itself when no run has it. -/
def mapRuns (runs : List CaseRun) (n : Nat) : Nat :=
  match runs.find? fun r => r.first ≤ n && n ≤ r.last && (n - r.first) % r.step == 0 with
  | some r => (Int.ofNat n + r.shift).toNat
  | none => n

/-! ## Lowercase -/

/-- The lowercase of a character outside any context. -/
def lowerChar (c : Char) : List Char :=
  if c.toNat < 0x80 then [c.toLower]
  else if c.toNat == 0x130 then ['i', Char.ofNat 0x307]
  else [Char.ofNat (mapRuns lowercaseRuns c.toNat)]

def isCaseIgnorable (c : Char) : Bool := inRanges caseIgnorableRanges c.toNat

def isCased (c : Char) : Bool := inRanges casedRanges c.toNat

/-- The first character that case does not ignore is cased. -/
def startsCased (cs : List Char) : Bool :=
  match cs.dropWhile isCaseIgnorable with
  | [] => false
  | c :: _ => isCased c

/-- A sigma between `before` (nearest first) and `after` ends a word. -/
def endsWord (before after : List Char) : Bool := startsCased before && !startsCased after

/-- The lowercase of a text that follows `before` (nearest first). -/
def lowerAfter : (before : List Char) → List Char → List Char
  | _, [] => []
  | before, c :: cs =>
    (if c.toNat == 0x3a3 then [Char.ofNat (if endsWord before cs then 0x3c2 else 0x3c3)]
      else lowerChar c) ++ lowerAfter (c :: before) cs

def lower (s : String) : String := String.ofList (lowerAfter [] s.toList)

/-! ## Uppercase -/

/-- The uppercase of a character. -/
def upperChar (c : Char) : List Char :=
  if c.toNat < 0x80 then [c.toUpper]
  else match uppercaseExpansions.lookup c.toNat with
    | some ns => ns.map Char.ofNat
    | none => [Char.ofNat (mapRuns uppercaseRuns c.toNat)]

def upper (s : String) : String := String.ofList (s.toList.flatMap upperChar)

/-- The text with its first character in uppercase. -/
def capitalize (s : String) : String :=
  match s.toList with
  | [] => ""
  | c :: cs => String.ofList (upperChar c ++ cs)

end ChatBot.Text
