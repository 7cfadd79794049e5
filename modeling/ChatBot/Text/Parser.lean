/-
  ChatBot.Text.Parser — reading a text from its start, part by part.

  A parser takes characters off the front, or fails. A choice (`<|>`) tries its second
  part from where the first one began. Repetition goes on while a part takes something
  off, so it ends.
-/

namespace ChatBot.Text

abbrev Parser := StateT (List Char) Option

namespace Parser

/-- What is left of the text. -/
def rest : Parser (List Char) := get

/-- The next character, which stays. -/
def peek : Parser (Option Char) := return (← get).head?

/-- The next character, if it is in a class. -/
def one (accepts : Char → Bool) : Parser Char := do
  match ← get with
  | c :: cs => if accepts c then set cs; return c else failure
  | [] => failure

/-- The characters up to the first that is not in a class. -/
def takeWhile (accepts : Char → Bool) : Parser (List Char) := do
  let cs ← get
  set (cs.dropWhile accepts)
  return cs.takeWhile accepts

def takeSome (accepts : Char → Bool) : Parser (List Char) := do
  match ← takeWhile accepts with
  | [] => failure
  | cs => return cs

def skipWhile (accepts : Char → Bool) : Parser Unit := do
  let _ ← takeWhile accepts

def char (c : Char) : Parser Unit := do
  let _ ← one (· == c)

/-- These characters in turn. -/
def text (s : String) : Parser Unit := s.toList.forM char

/-- The end of the text. -/
def atEnd : Parser Unit := do
  match ← get with
  | [] => return
  | _ => failure

/-- A part, or nothing. -/
def opt {α : Type} (p : Parser α) : Parser (Option α) := some <$> p <|> pure none

/-- A part again and again, while it can be read and takes something off. -/
def repeated {α : Type} (p : Parser α) (cs : List Char) : List α × List Char :=
  match p.run cs with
  | none => ([], cs)
  | some (a, later) =>
    if later.length < cs.length then
      let (as, later) := repeated p later
      (a :: as, later)
    else ([], cs)
termination_by cs.length

def many {α : Type} (p : Parser α) : Parser (List α) := modifyGet (repeated p)

/-- Parts with separators between them, one part at least. -/
def sepBy {α : Type} (separator : Parser Unit) (p : Parser α) : Parser (List α) := do
  let first ← p
  let others ← many (do separator; p)
  return first :: others

/-- What a parser makes of a whole text. -/
def readAll? {α : Type} (p : Parser α) (text : List Char) : Option α :=
  ((do let a ← p; atEnd; return a : Parser α).run text).map Prod.fst

end Parser

end ChatBot.Text
