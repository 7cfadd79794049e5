/-
  ChatBot.Text.Pattern — patterns over text, matched leftmost first.

  `Pattern.ends` lists every way a pattern matches from a place, in the order in which a
  backtracking matcher tries them: the first alternative before the second, the longest
  repetition before shorter ones. A match is the head of that list at the leftmost place
  where it is not empty (`find?`), and `findAll` walks on from the end of each match.
-/
import ChatBot.Text.Blank
import ChatBot.Text.CharClass

namespace ChatBot.Text

inductive Pattern where
  /-- Matches nothing and goes on. -/
  | empty
  /-- One character of a class. -/
  | one (accepts : Char → Bool)
  /-- As many characters of a class as the rest allows, the most first. -/
  | many (accepts : Char → Bool)
  | seq (first second : Pattern)
  | alt (first second : Pattern)
  /-- Remembers the text that a part matched. -/
  | group (part : Pattern)
  /-- The start of the text. -/
  | start
  /-- The end of the text. -/
  | stop
  /-- A place between a word character and another character or an end. -/
  | wordEdge

/-- A place in a text: the character before it, what follows it, and the groups matched
    on the way to it, the last one first. -/
structure Place where
  before : Option Char
  rest : List Char
  groups : List (List Char)
  deriving DecidableEq

namespace Place

def atStart (cs : List Char) : Place := ⟨none, cs, []⟩

/-- The place after `n` more characters. -/
def skip : Nat → Place → Place
  | 0, p => p
  | n + 1, p => match p.rest with
    | [] => p
    | c :: cs => skip n { p with before := some c, rest := cs }

/-- The text between a place and a later one. -/
def upTo (p later : Place) : List Char := p.rest.take (p.rest.length - later.rest.length)

def onWordEdge (p : Place) : Bool :=
  (match p.before with | some c => isWord c | none => false) !=
    (match p.rest with | c :: _ => isWord c | [] => false)

end Place

namespace Pattern

/-- The places after 0, 1, … characters of a class, the farthest first. -/
def runs (accepts : Char → Bool) (groups : List (List Char)) : Option Char → List Char → List Place
  | before, [] => [⟨before, [], groups⟩]
  | before, c :: cs =>
    if accepts c then runs accepts groups (some c) cs ++ [⟨before, c :: cs, groups⟩]
    else [⟨before, c :: cs, groups⟩]

/-- Where a match that begins at a place can end, in the order of preference. -/
def ends : Pattern → Place → List Place
  | .empty, p => [p]
  | .one accepts, p => match p.rest with
    | [] => []
    | c :: cs => if accepts c then [{ p with before := some c, rest := cs }] else []
  | .many accepts, p => runs accepts p.groups p.before p.rest
  | .seq a b, p => (ends a p).flatMap (ends b)
  | .alt a b, p => ends a p ++ ends b p
  | .group a, p => (ends a p).map fun q => { q with groups := p.upTo q :: q.groups }
  | .start, p => if p.before.isNone then [p] else []
  | .stop, p => if p.rest.isEmpty then [p] else []
  | .wordEdge, p => if p.onWordEdge then [p] else []

/-- The match that begins at a place: the matched text and the place where it ends. -/
def matchAt (pattern : Pattern) (p : Place) : Option (List Char × Place) :=
  (pattern.ends p).head?.map fun q => (p.upTo q, q)

/-- The leftmost match at or after a place. -/
def findFrom (pattern : Pattern) : Option Char → List Char → Option (List Char × Place)
  | before, [] => pattern.matchAt ⟨before, [], []⟩
  | before, c :: cs => match pattern.matchAt ⟨before, c :: cs, []⟩ with
    | some m => some m
    | none => findFrom pattern (some c) cs

/-- The leftmost match in a text. -/
def find? (pattern : Pattern) (cs : List Char) : Option (List Char × Place) :=
  findFrom pattern none cs

def isMatch (pattern : Pattern) (cs : List Char) : Bool := (pattern.find? cs).isSome

/-- The matches from a place on, the next `skip` characters being part of the last one.
    No empty match is taken where the last match ended (`barred`). -/
def findAllFrom (pattern : Pattern) :
    (skip : Nat) → (barred : Bool) → Option Char → List Char → List (List Char)
  | _ + 1, _, _, [] => []
  | skip + 1, barred, _, c :: cs => findAllFrom pattern skip barred (some c) cs
  | 0, barred, before, [] => match pattern.matchAt ⟨before, [], []⟩ with
    | some (found, _) => if barred then [] else [found]
    | none => []
  | 0, barred, before, c :: cs => match pattern.matchAt ⟨before, c :: cs, []⟩ with
    | none => findAllFrom pattern 0 false (some c) cs
    | some ([], _) =>
      if barred then findAllFrom pattern 0 false (some c) cs
      else [] :: findAllFrom pattern 0 false (some c) cs
    | some (found, _) => found :: findAllFrom pattern (found.length - 1) true (some c) cs

/-- Every match in a text, left to right, none overlapping another. -/
def findAll (pattern : Pattern) (cs : List Char) : List (List Char) :=
  findAllFrom pattern 0 false none cs

/-! ## Building patterns -/

/-- One of these characters in turn. -/
def text (s : String) : Pattern :=
  s.toList.foldr (fun c rest => .seq (.one (· == c)) rest) .empty

/-- One or more characters of a class. -/
def atLeastOne (accepts : Char → Bool) : Pattern := .seq (.one accepts) (.many accepts)

/-- The part, or else nothing. -/
def optional (part : Pattern) : Pattern := .alt part .empty

/-- The first of these that matches. -/
def firstOf : List Pattern → Pattern
  | [] => .one fun _ => false
  | [p] => p
  | p :: ps => .alt p (firstOf ps)

def seqAll : List Pattern → Pattern
  | [] => .empty
  | [p] => p
  | p :: ps => .seq p (seqAll ps)

/-- A part so many times. -/
def times (n : Nat) (part : Pattern) : Pattern := seqAll (List.replicate n part)

/-- The characters whose simple case folding is that of an ASCII letter: its two cases,
    the kelvin sign for `k` and the long s for `s`. -/
def foldsTo (letter c : Char) : Bool :=
  c.toLower == letter.toLower || (letter.toLower == 'k' && c.toNat == 0x212a) ||
    (letter.toLower == 's' && c.toNat == 0x17f)

/-- A text in any case. -/
def anyCase (s : String) : Pattern :=
  s.toList.foldr (fun c rest => .seq (.one (foldsTo c)) rest) .empty

end Pattern

end ChatBot.Text
