/-
  ChatBot.Argument.Flag — switches such as `--force` or `-f`, recognised as whole words
  anywhere among the arguments and taken out before anything is read by place.
-/
import ChatBot.Dict
import ChatBot.Text.Ascii
import ChatBot.Text.Blank

namespace ChatBot

open Text

structure Flag where
  /-- Names after two dashes. -/
  long : List String
  /-- Names after one dash. -/
  short : List String
  deriving DecidableEq

namespace Flag

/-- One of the names, none of them empty, up to the case of ASCII letters. -/
def namedIn (names : List String) (spelling : List Char) : Bool :=
  names.any fun n => !n.isEmpty && alike n (String.ofList spelling)

/-- The word spells this flag: two dashes and a long name, or one dash and a short one. -/
def spelledBy (flag : Flag) (word : String) : Bool :=
  match word.toList with
  | '-' :: '-' :: name => namedIn flag.long name
  | '-' :: name => namedIn flag.short name
  | _ => false

/-- The flag that every command has. -/
def debug : Flag := ⟨["debug"], []⟩

/-- The declared flags, and `debug` unless one of them has that name. -/
def effective (flags : List (String × Flag)) : List (String × Flag) :=
  if flags.any (·.1 == "debug") then flags else flags ++ [("debug", debug)]

/-- What is left when flags are taken out, and which of them were there. -/
structure Extracted where
  words : List String
  present : Dict String Bool

/-- The words left, joined by one space. -/
def Extracted.text (e : Extracted) : String := unwords e.words

/-- Takes one flag out. -/
def Extracted.takeOut (e : Extracted) (flag : String × Flag) : Extracted :=
  let rest := e.words.filter fun w => !flag.2.spelledBy w
  ⟨rest, e.present.insert flag.1 (rest.length != e.words.length)⟩

/-- Takes the effective flags out one after another, in order of declaration. -/
def extract (text : String) (flags : List (String × Flag)) : Extracted :=
  (effective flags).foldl Extracted.takeOut ⟨wordsOf text, Dict.empty⟩

/-- Some word spells a declared flag. -/
def anyIn (text : String) (flags : List (String × Flag)) : Bool :=
  (wordsOf text).any fun w => flags.any fun f => f.2.spelledBy w

end Flag

end ChatBot
