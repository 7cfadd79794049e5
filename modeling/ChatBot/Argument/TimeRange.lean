/-
  ChatBot.Argument.TimeRange — periods that end now, such as `week`, `3 months` or `2y`.

  The first piece of a text that looks like a period decides (`periodPattern`); `overall`
  and its like anywhere in the text mean all of time. The same finding gives the range
  (`TimeRange.parse`) and its wording (`TimeRange.humanize`).
-/
import ChatBot.Calendar
import ChatBot.Decimal.Numeral
import ChatBot.Text.CaseMap
import ChatBot.Text.Pattern

namespace ChatBot

open Text

/-- A window of time, open on a side without an instant. -/
structure TimeRange where
  start : Option Instant
  stop : Option Instant
  deriving DecidableEq

namespace TimeRange

def overall : TimeRange := ⟨none, none⟩

def isOverall (r : TimeRange) : Bool := r.start.isNone && r.stop.isNone

/-! ## Units -/

inductive Unit where
  | minute | hour | day | week | fortnight | month | quarter | half | year
  deriving DecidableEq

namespace Unit

def singular : Unit → String
  | .minute => "minute" | .hour => "hour" | .day => "day" | .week => "week"
  | .fortnight => "fortnight" | .month => "month" | .quarter => "quarter"
  | .half => "half year" | .year => "year"

/-- The words for each unit. -/
def spellings : Unit → List String
  | .minute => ["min", "mins", "minute", "minutes"]
  | .hour => ["h", "hour", "hours"]
  | .day => ["d", "day", "days"]
  | .week => ["w", "week", "weeks"]
  | .fortnight => ["fortnight", "fortnights"]
  | .month => ["m", "mo", "month", "months"]
  | .quarter => ["q", "quarter", "quarters"]
  | .half => ["half", "halfyear"]
  | .year => ["y", "year", "years"]

def all : List Unit :=
  [.minute, .hour, .day, .week, .fortnight, .month, .quarter, .half, .year]

/-- The unit of a word, whose lowercase has to be one of the spellings. -/
def ofWord? (word : String) : Option Unit :=
  all.find? fun u => u.spellings.contains (lower word)

/-- How long a unit is. -/
inductive Length where
  | seconds (n : Nat)
  | months (n : Nat)

def length : Unit → Length
  | .minute => .seconds 60
  | .hour => .seconds 3600
  | .day => .seconds 86400
  | .week => .seconds (7 * 86400)
  | .fortnight => .seconds (14 * 86400)
  | .month => .months 1
  | .quarter => .months 3
  | .half => .months 6
  | .year => .months 12

/-- The instant `amount` units before `now`, if it is supported. -/
def before (unit : Unit) (now : Instant) (amount : Nat) : Option Instant :=
  match unit.length with
  | .seconds n => Calendar.minusSeconds now (n * amount)
  | .months n => Calendar.minusMonths now (n * amount)

end Unit

/-! ## Finding a period -/

/-- The words of all units in any case, in the order in which they are tried. -/
def unitWords : Pattern :=
  .firstOf [plural "minute", plural "min", plural "hour", .anyCase "h", plural "day", .anyCase "d",
    plural "week", .anyCase "w", plural "fortnight", plural "month", .anyCase "mo", .anyCase "m",
    plural "quarter", .anyCase "q", .anyCase "halfyear", .anyCase "half", plural "year", .anyCase "y"]
where
  plural (word : String) : Pattern := .seq (.anyCase word) (.optional (.anyCase "s"))

/-- The start of the text or one blank. -/
def edgeBefore : Pattern := .alt .start (.one isBlank)

/-- One blank or the end of the text. -/
def edgeAfter : Pattern := .alt (.one isBlank) .stop

/-- An amount in decimal digits, perhaps, and a unit, between blanks. -/
def periodPattern : Pattern :=
  .seqAll [edgeBefore, .optional (.group (.atLeastOne isDecimal)), .many isBlank, .group unitWords, edgeAfter]

def overallPattern : Pattern :=
  .seqAll [edgeBefore, .firstOf [.anyCase "overall", .anyCase "alltime", .anyCase "all-time"], edgeAfter]

def namesOverall (text : String) : Bool := overallPattern.isMatch text.toList

/-- The amount of a period: one when none is given, and only amounts in ASCII digits
    below 2³². -/
def amount? : Option (List Char) → Option Nat
  | none => some 1
  | some digits => Decimal.toNatBelow? 0x100000000 (String.ofList digits)

/-- The period that a text names first: a positive amount and a unit. -/
def findPeriod (text : String) : Option (Nat × Unit) := do
  let (_, place) ← periodPattern.find? text.toList
  let (word, digits) ← match place.groups with
    | [word] => some (word, none)
    | word :: digits :: _ => some (word, some digits)
    | [] => none
  let amount ← amount? digits
  let unit ← Unit.ofWord? (String.ofList word)
  if amount > 0 then some (amount, unit) else none

/-- The range that a text names, ending at `now`; none when it names no period or one
    that reaches back too far. -/
def parse (text : String) (now : Instant) : Option TimeRange :=
  if namesOverall text then some overall
  else do
    let (amount, unit) ← findPeriod text
    let start ← unit.before now amount
    some ⟨some start, some now⟩

/-- The wording of the period in a text, such as `over the past 2 weeks`. -/
def humanize (text : String) : String :=
  if namesOverall text then "overall"
  else match findPeriod text with
    | none => "overall"
    | some (amount, unit) =>
      if amount = 1 then "over the past " ++ unit.singular
      else "over the past " ++ toString amount ++ " " ++ unit.singular ++ "s"

end TimeRange

end ChatBot
