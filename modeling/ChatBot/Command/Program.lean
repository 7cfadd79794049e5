/-
  ChatBot.Command.Program — what a command does when it runs.

  A handler sees its run (`Context`) and answers with a program: a tree of requests to
  the bot, each followed by what is done with the answer. A program can do nothing but
  make these requests, so what holds of each request holds of every command.
-/
import ChatBot.Argument.Schema
import ChatBot.Command.Info
import ChatBot.Config
import ChatBot.Resolver

namespace ChatBot

/-- Everything a handler sees of its run. -/
structure Context where
  message : InboundMessage
  invocation : Invocation
  args : ParsedArgs
  command : CommandInfo
  parent : Option CommandInfo
  /-- The variation that selected the command. -/
  variation : Option String
  /-- `--debug` was given by a developer. -/
  debug : Bool
  config : Config

namespace Context

/-- The variation selected the command, by its name or by a spelling. -/
def usedVariation (ctx : Context) (spelling : String) : Bool :=
  (match ctx.variation with | some v => Text.alike v spelling | none => false) ||
    ctx.invocation.usedVariation spelling

def isDeveloper (ctx : Context) : Bool := ctx.config.isDeveloper ctx.message.author.id

end Context

/-- Something that a handler notes about its run, for whoever watches it. -/
inductive Note where
  | sent (message : SentMessage)
  | usedVariation (used : Bool)
  | resolved (mentions : ResolvedMentions)
  /-- The whole context, at a stage of the run. -/
  | context (stage : String) (ctx : Context)

/-- Requests and what follows them. -/
inductive Program where
  | done
  | fail (error : CommandError)
  /-- Sends a message to a channel. -/
  | send (channel : String) (message : OutgoingMessage) (next : Except OutputError SentMessage → Program)
  | startTyping (channel : String) (next : Except OutputError Unit → Program)
  /-- Resolves whom the run is about. -/
  | resolve (options : ResolverOptions) (next : Except CommandError ResolvedMentions → Program)
  | sleep (milliseconds : Nat) (next : Program)
  /-- Looks a command up by name or alias. -/
  | lookup (name : String) (next : Option CommandInfo → Program)
  /-- Keeps a user's record. -/
  | keepIdentity (identity : LocalIdentity) (next : Program)
  | disable (guild command : String) (devOnly : Bool) (next : Program)
  /-- Enables a command again; the answer is whether it was disabled. -/
  | enable (guild command : String) (next : Bool → Program)
  | note (entry : Note) (next : Program)

namespace Program

/-- Sends a message to the channel of the run; a failure ends it. -/
def reply (ctx : Context) (message : OutgoingMessage) (next : SentMessage → Program) : Program :=
  .send ctx.message.channelId message fun
    | .ok sent => next sent
    | .error e => .fail (.ofOutput e)

/-- Replies with a text and ends. -/
def say (ctx : Context) (text : String) : Program := reply ctx ⟨text, none⟩ fun _ => .done

/-- Resolves whom the run is about; a failure ends it. -/
def withMentions (options : ResolverOptions) (next : ResolvedMentions → Program) : Program :=
  .resolve options fun
    | .ok mentions => next mentions
    | .error e => .fail e

end Program

end ChatBot
