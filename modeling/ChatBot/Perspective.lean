/-
  ChatBot.Perspective — whether a reply speaks to the target (`you have`) or about them
  (`joe has`).
-/
import ChatBot.Text.Ascii
import ChatBot.Text.CaseMap

namespace ChatBot

open Text

structure Perspective where
  name : String
  possessive : String
  has : String
  is : String
  /-- The target is the sender. -/
  isSelf : Bool
  deriving DecidableEq

namespace Perspective

def secondPerson : Perspective := ⟨"you", "your", "you have", "you are", true⟩

/-- The target by name, between backticks if asked. -/
def thirdPerson (name : String) (asCode : Bool) : Perspective :=
  let name := if asCode then "`" ++ name ++ "`" else name
  ⟨name, name ++ "'s", name ++ " has", name ++ " is", false⟩

/-- Second person when both names are the same up to the case of ASCII letters. -/
def build (sender target : String) (asCode : Bool) : Perspective :=
  if alike sender target then secondPerson else thirdPerson target asCode

/-- Names the target as the chat shows them; the second person stays. -/
def withDisplayName (p : Perspective) (displayName : String) : Perspective :=
  if p.isSelf then p else thirdPerson displayName false

/-- Every form with a capital, for the start of a sentence. -/
def upper (p : Perspective) : Perspective :=
  ⟨capitalize p.name, capitalize p.possessive, capitalize p.has, capitalize p.is, p.isSelf⟩

end Perspective

end ChatBot
