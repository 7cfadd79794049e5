/-
  ChatBot.Text.Blank — blank characters, the words between them, and trimming.

  Blank is the Unicode property White_Space: it has the no-break and ideographic spaces
  and the line separators, and not the zero-width space. Words are the non-empty pieces
  between blanks (`words`), and joining them by one space loses nothing else
  (`unwords`).
-/

namespace ChatBot.Text

/-- The Unicode property White_Space. -/
def isBlank (c : Char) : Bool :=
  let n := c.toNat
  (0x9 ≤ n && n ≤ 0xd) || n == 0x20 || n == 0x85 || n == 0xa0 || n == 0x1680 ||
    (0x2000 ≤ n && n ≤ 0x200a) || n == 0x2028 || n == 0x2029 || n == 0x202f ||
    n == 0x205f || n == 0x3000

/-! ## Trimming -/

def trimStart (cs : List Char) : List Char := cs.dropWhile isBlank

def trimEnd (cs : List Char) : List Char := (cs.reverse.dropWhile isBlank).reverse

def trim (cs : List Char) : List Char := trimEnd (trimStart cs)

/-- The text without blanks at its ends. -/
def trimmed (s : String) : String := String.ofList (trim s.toList)

/-- No character of the text is anything but blank. -/
def isBlankText (s : String) : Bool := s.toList.all isBlank

/-! ## Words -/

/-- The non-empty pieces between blanks, in order. -/
def words (cs : List Char) : List (List Char) := (cs.splitOnP isBlank).filter (!·.isEmpty)

def wordsOf (s : String) : List String := (words s.toList).map String.ofList

/-- Words joined by one space. -/
def unwords (ws : List String) : String := String.intercalate " " ws

end ChatBot.Text
