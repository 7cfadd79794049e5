/-
  ChatBot.Script — commands described by data instead of code: a handler is a list of
  actions, a delegation is a condition on the arguments, and patterns and readers of
  arguments go by name.
-/
import ChatBot.Command.Basic

namespace ChatBot.Script

open ChatBot.Text

/-! ## Handlers -/

inductive Action where
  /-- Replies, and notes the message that was delivered. -/
  | reply (text : String)
  | send (text : String) (footer : Option String)
  /-- Replies with a number given as argument, 0 without one. -/
  | echoNumber (argument : String)
  | fail (error : CommandError)
  | sleep (milliseconds : Nat)
  /-- Notes whether a variation selected the command. -/
  | noteVariation (spelling : String)
  /-- Notes the whole context. -/
  | noteContext
  /-- Resolves whom the run is about, notes it, and replies who has which account. -/
  | mentions (options : ResolverOptions)
  /-- Shows typing in a channel; a chat that refuses does not stop the run. -/
  | startTyping (channel : String)

namespace Action

/-- The program of one action, at a stage of the run, before the rest. -/
def program (stage : String) (ctx : Context) (action : Action) (rest : Program) : Program :=
  match action with
  | .reply text => .reply ctx ⟨text, none⟩ fun sent => .note (.sent sent) rest
  | .send text footer => .reply ctx ⟨text, footer⟩ fun _ => rest
  | .echoNumber argument =>
    let n := (ctx.args.number? argument).getD 0
    .reply ctx ⟨"echo " ++ Decimal.ofFloat n, none⟩ fun _ => rest
  | .fail error => .fail error
  | .sleep milliseconds => .sleep milliseconds rest
  | .noteVariation spelling => .note (.usedVariation (ctx.usedVariation spelling)) rest
  | .noteContext => .note (.context stage ctx) rest
  | .mentions options => .withMentions options fun m =>
    .note (.resolved m) <|
      .reply ctx ⟨m.perspective.upper.has ++ " " ++ m.username.getD "", none⟩ fun _ => rest
  | .startTyping channel => .startTyping channel fun _ => rest

end Action

/-- The actions in order. -/
def program (stage : String) (actions : List Action) (ctx : Context) : Program :=
  actions.foldr (Action.program stage ctx) .done

/-- A handler that plays actions before its run and in it. -/
def handler (prerun run : List Action) : Handler := ⟨program "prerun" prerun, program "run" run⟩

/-! ## Conditions -/

/-- A condition on one argument. -/
inductive Condition where
  | textIs (text : String)
  /-- Up to the case of ASCII letters. -/
  | textIsAlike (text : String)
  | present
  | flagSet
  | isMention
  | always

def Condition.holds (condition : Condition) (argument : String) (args : ParsedArgs) : Bool :=
  match condition with
  | .textIs text => args.text? argument == some text
  | .textIsAlike text => (args.text? argument).any (alike · text)
  | .present => args.contains argument
  | .flagSet => args.isSet argument
  | .isMention => (args.mention? argument).isSome
  | .always => true

/-! ## Patterns and readers by name -/

def digit : Pattern := .one isDecimal

/-- Patterns by the regular expressions that they stand for. -/
def patterns : List (String × Pattern) := [
  ("-?[0-9]+", .seq (.optional (.text "-")) (.atLeastOne isAsciiDigit)),
  ("\\d+", .atLeastOne isDecimal),
  ("[a-z]+", .atLeastOne fun c => 'a' ≤ c && c ≤ 'z'),
  ("(?i)abc", .anyCase "abc"),
  ("\"[^\"]*\"", .seqAll [.text "\"", .many (· != '"'), .text "\""]),
  ("\\b\\w\x7b3\x7d\\b", .seqAll [.wordEdge, .times 3 (.one isWord), .wordEdge]),
  ("a*", .many (· == 'a')),
  ("#\\S+", .seq (.text "#") (.atLeastOne fun c => !isBlank c)),
  ("\\d\x7b4\x7d-\\d\x7b2\x7d", .seqAll [.times 4 digit, .text "-", .times 2 digit])]

def pattern? (expression : String) : Option Pattern := patterns.lookup expression

/-- The uppercase of a text of more than three bytes. -/
def upperReader : Transform := fun _ text =>
  if text.utf8ByteSize > 3 then some (.text (upper text)) else none

/-- Readers of captured text. -/
def transforms : List (String × Transform) := [
  ("time_range", .timeRange),
  ("humanize", .humanizedTimeRange),
  ("emoji", .emoji),
  ("upper", upperReader),
  ("echo", fun _ text => some (.text text)),
  ("none", fun _ _ => none)]

def transform? (name : String) : Option Transform := transforms.lookup name

end ChatBot.Script
