/-
  ChatBot.Text.Ascii — comparison up to the case of ASCII letters.

  Names typed by users are compared this way: `a` and `A` are the same, `é` and `É` are
  not. A text that equals another up to ASCII case has as many characters and as many
  bytes, so `dropAlike` cuts at a place that suits both.
-/

namespace ChatBot.Text

/-- Equal up to the case of ASCII letters. -/
def alike (a b : String) : Bool := a.toList.map Char.toLower == b.toList.map Char.toLower

theorem alike_refl (s : String) : alike s s = true := by simp [alike]

/-- What follows `head` at the start of a text, up to the case of ASCII letters. -/
def dropAlike : (head text : List Char) → Option (List Char)
  | [], cs => some cs
  | _ :: _, [] => none
  | h :: hs, c :: cs => if h.toLower == c.toLower then dropAlike hs cs else none

/-- The ASCII letters, digits. -/
def isAsciiDigit (c : Char) : Bool := '0' ≤ c && c ≤ '9'

def isAsciiAlphanumeric (c : Char) : Bool :=
  isAsciiDigit c || ('a' ≤ c && c ≤ 'z') || ('A' ≤ c && c ≤ 'Z')

end ChatBot.Text
