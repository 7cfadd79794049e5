/-
  ChatBot.Argument.Value — what an argument of a command holds.
-/
import ChatBot.Argument.Mention
import ChatBot.Argument.TimeRange
import ChatBot.Dict

namespace ChatBot

inductive ArgValue where
  | text (text : String)
  | list (items : List String)
  | number (value : Float)
  | flag (isSet : Bool)
  | mention (target : MentionTarget)
  | period (range : TimeRange)
  /-- A custom value that no reader of this library looks into. -/
  | sealed

namespace ArgValue

/-- Equal values. Numbers are equal as numbers, NaN with NaN; a value that a custom
    reader built is equal to no other. -/
def same : ArgValue → ArgValue → Bool
  | .text a, .text b => a == b
  | .list a, .list b => a == b
  | .number a, .number b => a == b || (Decimal.Binary64.isNaN a && Decimal.Binary64.isNaN b)
  | .flag a, .flag b => a == b
  | .mention a, .mention b => a == b
  | _, _ => false

/-- A text becomes the number that it writes, NaN if it writes none. -/
def asNumber : ArgValue → ArgValue
  | .text s => .number (Decimal.toFloatOrNaN (Text.trimmed s))
  | v => v

end ArgValue

/-- The arguments of one invocation: every flag, and the inputs and mentions that were
    given or have a default. -/
abbrev ParsedArgs := Dict String ArgValue

namespace ParsedArgs

def text? (args : ParsedArgs) (name : String) : Option String :=
  match args.get? name with
  | some (.text s) => some s
  | _ => none

def number? (args : ParsedArgs) (name : String) : Option Float :=
  match args.get? name with
  | some (.number n) => some n
  | _ => none

def list? (args : ParsedArgs) (name : String) : Option (List String) :=
  match args.get? name with
  | some (.list l) => some l
  | _ => none

def mention? (args : ParsedArgs) (name : String) : Option MentionTarget :=
  match args.get? name with
  | some (.mention t) => some t
  | _ => none

def period? (args : ParsedArgs) (name : String) : Option TimeRange :=
  match args.get? name with
  | some (.period r) => some r
  | _ => none

/-- A flag is set; names that are no flags count as unset. -/
def isSet (args : ParsedArgs) (name : String) : Bool :=
  match args.get? name with
  | some (.flag b) => b
  | _ => false

end ParsedArgs

end ChatBot
