/-
  ChatBot.Files.Path — paths of files as they are written.

  A path is a list of names with slashes between them, from the root or from the working
  directory. `.` and `..` are names like others here: where they lead is seen when a path
  is followed (`FileTree`).
-/
import ChatBot.Text.Split

namespace ChatBot

structure Path where
  fromRoot : Bool
  names : List String
  /-- A slash comes after the last name. -/
  slashAfter : Bool
  deriving DecidableEq

namespace Path

def ofText (text : String) : Path :=
  let names := ((Text.splitOn ['/'] text.toList).filter (!·.isEmpty)).map String.ofList
  ⟨text.toList.head? == some '/', names, text.toList.getLast? == some '/' && !names.isEmpty⟩

def text (p : Path) : String :=
  (if p.fromRoot then "/" else "") ++ "/".intercalate p.names ++ (if p.slashAfter then "/" else "")

/-- A path of no names from the working directory leads nowhere. -/
def isBlank (p : Path) : Bool := p.names.isEmpty && !p.fromRoot

/-- The names without those that stay where they are; the first name of a path from the
    working directory is kept. -/
def steps (p : Path) : List String :=
  match p.fromRoot, p.names with
  | false, first :: others => first :: others.filter (· != ".")
  | _, names => names.filter (· != ".")

/-- The path without its last step, if it has one. -/
def parent? (p : Path) : Option Path :=
  if p.steps.isEmpty then none else some ⟨p.fromRoot, p.steps.dropLast, false⟩

end Path

end ChatBot
