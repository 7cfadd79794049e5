/-
  ChatBot.Invocation — a message split into the words that select a command and the text
  of its arguments.
-/
import ChatBot.Token
import ChatBot.Text.CaseMap

namespace ChatBot

open Text

structure Invocation where
  /-- The words that selected the command, as typed. -/
  selectors : List String
  /-- Spellings under which a variation of the command was selected. -/
  variations : List String
  /-- The words after them. -/
  words : List String
  /-- The text after them, with its own spacing. -/
  argsText : String
  deriving DecidableEq

namespace Invocation

/-- The text from byte `start` on. -/
def fromByte : (start : Nat) → List Char → List Char
  | _, [] => []
  | start, c :: cs => if start = 0 then c :: cs else fromByte (start - c.utf8Size) cs

/-- The first `consumed` words select the command; as many as there are, if there are
    fewer. -/
def ofText (text : String) (consumed : Nat) (variations : List String) : Invocation :=
  let tokens := tokenize text
  { selectors := (tokens.take consumed).map Token.text
    variations := variations
    words := (tokens.drop consumed).map Token.text
    argsText := match tokens[consumed]? with
      | some t => String.ofList (trimEnd (fromByte t.start text.toList))
      | none => "" }

def isEmpty (i : Invocation) : Bool := i.words.isEmpty

def word? (i : Invocation) (n : Nat) : Option String := i.words[n]?

/-- The words from the `n`-th on, joined by one space. -/
def wordsFrom? (i : Invocation) (n : Nat) : Option String :=
  if n < i.words.length then some (unwords (i.words.drop n)) else none

def usedVariation (i : Invocation) (spelling : String) : Bool :=
  i.variations.any (alike · spelling)

/-- The selecting words in lowercase. -/
def path (i : Invocation) : String := unwords (i.selectors.map lower)

/-- The invocation as typed, with one space before the arguments. -/
def toText (i : Invocation) : String :=
  unwords (i.selectors ++ if i.argsText.isEmpty then [] else [i.argsText])

end Invocation

end ChatBot
