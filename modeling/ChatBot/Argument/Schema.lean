/-
  ChatBot.Argument.Schema — what a command declares about its arguments, and how a text
  is read by it.

  Flags are taken out first. Mentions are then read from the words that are left, each
  slot taking the first word it accepts among those no slot used up. Inputs are read from
  the words that no mention used up, or from these words joined by one space.
-/
import ChatBot.Argument.Emoji
import ChatBot.Argument.Flag
import ChatBot.Argument.Value
import ChatBot.Invocation
import ChatBot.Text.Split

namespace ChatBot

open Text

/-- A reader that turns captured text into a value, or into none. -/
abbrev Transform := Instant → String → Option ArgValue

namespace Transform

/-- The range that the text names, all of time when it names none. -/
def timeRange : Transform := fun now text =>
  some (.period ((TimeRange.parse text now).getD .overall))

/-- The wording of that range. -/
def humanizedTimeRange : Transform := fun _ text => some (.text (TimeRange.humanize text))

/-- The emoji of the text. -/
def emoji : Transform := fun _ text => some (.list (Emoji.listIn text))

end Transform

/-- An argument read by its place. -/
structure InputSpec where
  index : Index
  /-- Places are pieces between this delimiter, when it is not empty. -/
  splitOn : Option String
  /-- Places are the matches of this pattern. -/
  pattern : Option Pattern
  transform : Option Transform
  fallback : Option ArgValue
  /-- A text is read as a number. -/
  number : Bool

structure Schema where
  inputs : List (String × InputSpec)
  mentions : List (String × MentionSpec)
  flags : List (String × Flag)

namespace Schema

def empty : Schema := ⟨[], [], []⟩

def isEmpty (s : Schema) : Bool := s.inputs.isEmpty && s.mentions.isEmpty && s.flags.isEmpty

end Schema

namespace InputSpec

/-- An input without anything special. -/
def plain (index : Index) : InputSpec := ⟨index, none, none, none, none, false⟩

/-- The items among which the index selects. -/
def items (spec : InputSpec) (words : List String) : List String :=
  match spec.pattern, spec.splitOn with
  | some p, _ => (p.findAll (unwords words).toList).map String.ofList
  | none, some d =>
    if d.isEmpty then words
    else (Text.splitOn d.toList (unwords words).toList).map fun piece => String.ofList (trim piece)
  | none, none => words

/-- What an index over everything captures: the first match of the pattern, if there is
    one to match, and else the text. -/
def wholeCapture (spec : InputSpec) (words : List String) : Option String :=
  match spec.pattern with
  | some _ => (spec.items words).head?
  | none => some (unwords words)

/-- The text that the input reads; a blank one counts as none. -/
def capture (spec : InputSpec) (words : List String) : Option String :=
  let captured := match spec.index with
    | .whole => spec.wholeCapture words
    | index => index.select (spec.items words) " "
  captured.filter fun s => !isBlankText s

/-- The value of the input, if it has one. -/
def read (spec : InputSpec) (now : Instant) (words : List String) : Option ArgValue :=
  let captured := spec.capture words
  let value := match spec.transform with
    | some f => f now (captured.getD "")
    | none => captured.map .text
  (value.or spec.fallback).map fun v => if spec.number then v.asNumber else v

end InputSpec

namespace Schema

/-- The first word that a mention slot accepts, among the positions it covers and that
    are not used up: its position, the target, whether it is used up now. -/
def firstMention (spec : MentionSpec) (words : List String) (used : List Nat) :
    Option (Nat × MentionTarget × Bool) :=
  (spec.index.covered words.length).findSome? fun p =>
    if used.contains p then none
    else words[p]?.bind fun w => (spec.read w).map fun r => (p, r.1, r.2)

/-- What the mention slots found so far. -/
structure Found where
  used : List Nat
  targets : List (String × MentionTarget)

def Found.take (words : List String) (f : Found) (slot : String × MentionSpec) : Found :=
  match firstMention slot.2 words f.used with
  | none => f
  | some (p, target, consumes) =>
    ⟨if consumes then p :: f.used else f.used, f.targets ++ [(slot.1, target)]⟩

/-- The mention slots in order of declaration. -/
def findMentions (slots : List (String × MentionSpec)) (words : List String) : Found :=
  slots.foldl (Found.take words) ⟨[], []⟩

/-- The words that no mention used up. -/
def inputWords (words : List String) (used : List Nat) : List String :=
  (words.zipIdx.filter fun w => !used.contains w.2).map Prod.fst

/-- The arguments that a text gives. A name declared twice has its later value. -/
def parseText (schema : Schema) (now : Instant) (text : String) : ParsedArgs :=
  let flags := Flag.extract text schema.flags
  let found := findMentions schema.mentions flags.words
  let words := inputWords flags.words found.used
  let inputs := schema.inputs.filterMap fun input => (input.2.read now words).map fun v => (input.1, v)
  Dict.ofList ((flags.present.entries.map fun f => (f.1, ArgValue.flag f.2)) ++
    (found.targets.map fun t => (t.1, ArgValue.mention t.2)) ++ inputs)

def parse (schema : Schema) (now : Instant) (invocation : Invocation) : ParsedArgs :=
  schema.parseText now invocation.argsText

end Schema

end ChatBot
