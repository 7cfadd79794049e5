/-
  ChatBot.Argument.Validation — constraints on arguments, checked in order of
  declaration; the first that fails stops the run.
-/
import ChatBot.Argument.Value
import ChatBot.Decimal.Shortest
import ChatBot.Error

namespace ChatBot

open Decimal

/-- A constraint on one argument. All but `required` accept an argument that is absent. -/
inductive Validator where
  /-- Present, and neither blank nor an empty list. -/
  | required
  /-- A number between bounds, both included. -/
  | range (min max : Option Float)
  /-- A finite number, a whole one if asked. -/
  | number (whole : Bool)
  /-- A period whose start is not after its end. -/
  | timeRange (requireStart emptyWithoutStart : Bool)

namespace Validator

/-- The wording of bounds. -/
def boundsText : (min max : Option Float) → String
  | some min, some max => "must be between " ++ ofFloat min ++ " and " ++ ofFloat max
  | some min, none => "must be at least " ++ ofFloat min
  | none, some max => "must be at most " ++ ofFloat max
  | none, none => "must be a number"

/-- The number that a value is or writes; NaN for a text that writes none. -/
def numberIn : ArgValue → Option Float
  | .number n => some n
  | .text s => some (toFloatOrNaN (Text.trimmed s))
  | _ => none

def isWithin (min max : Option Float) (n : Float) : Bool :=
  !Binary64.isNaN n && (match min with | some m => m ≤ n | none => true) &&
    (match max with | some m => n ≤ m | none => true)

def isPresent : Option ArgValue → Bool
  | none => false
  | some (.text s) => !Text.isBlankText s
  | some (.list items) => !items.isEmpty
  | some _ => true

/-- The constraint of a period: one without a start may count as no period. -/
def checkPeriod (requireStart emptyWithoutStart : Bool) (period : TimeRange) : Option String :=
  let period := if emptyWithoutStart && period.start.isNone then .overall else period
  match period.start, period.stop with
  | some start, some stop =>
    if start > stop then some "the start of the period must be before its end" else none
  | some _, none => none
  | none, _ =>
    if requireStart then some "please specify a time period (e.g. `week`, `3 months`)" else none

/-- The constraint that a value breaks, as the user is told; none if it breaks none. -/
def violation (validator : Validator) (value : Option ArgValue) : Option String :=
  match validator, value with
  | .required, value => if isPresent value then none else some "this argument is required"
  | _, none => none
  | .range min max, some v =>
    match numberIn v with
    | some n => if isWithin min max n then none else some (boundsText min max)
    | none => some (boundsText min max)
  | .number whole, some v =>
    let n := (numberIn v).getD Binary64.nan
    if (Binary64.parts n).isNone then some "must be a number"
    else if whole && !Binary64.isWhole n then some "must be a whole number"
    else none
  | .timeRange requireStart emptyWithoutStart, some (.period period) =>
    checkPeriod requireStart emptyWithoutStart period
  | .timeRange .., some _ => some "must be a time period"

end Validator

/-- A constraint on the argument of a name. -/
structure ValidationRule where
  argument : String
  validator : Validator
  /-- What the user is told the argument is called. -/
  friendlyName : Option String

namespace ValidationRule

def displayName (rule : ValidationRule) : String := rule.friendlyName.getD rule.argument

def check (rule : ValidationRule) (args : ParsedArgs) : Except CommandError Unit :=
  match rule.validator.violation (args.get? rule.argument) with
  | some constraint => .error (.validationFailed rule.displayName constraint)
  | none => .ok ()

/-- The rules in order. -/
def checkAll : List ValidationRule → ParsedArgs → Except CommandError Unit
  | [], _ => .ok ()
  | rule :: rules, args => match rule.check args with
    | .error e => .error e
    | .ok () => checkAll rules args

end ValidationRule

end ChatBot
