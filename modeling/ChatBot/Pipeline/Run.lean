/-
  ChatBot.Pipeline.Run — one message from its arrival to its outcome.

  A message that begins with the marker is resolved to a command. The command is asked
  for its rollout, then it is set up (typing, a loading reaction, hooks), the gate is
  asked, its arguments are read, and either a delegate runs in its place or its rules are
  checked and its handler runs. An error is told to the user or to the operators, and
  the set-up is taken down again, unless the error itself could not be told.
-/
import ChatBot.Gate
import ChatBot.Pipeline.State

namespace ChatBot

open Text

/-- How a message was handled. -/
inductive Outcome where
  /-- No invocation. -/
  | ignored
  /-- No command of that name. -/
  | notFound
  /-- The command is not active here. -/
  | rolledOut
  | completed
  /-- Another command ran in place of the one called. -/
  | delegated (target : String) (inner : Outcome)
  | failed (error : CommandError)
  deriving DecidableEq

structure Bot where
  registry : Registry
  config : Config
  /-- Hooks besides the identity sync. -/
  hooks : List Hook

namespace Context

/-- The run of a command that was called, before it reads its arguments. -/
def ofResolution (config : Config) (message : InboundMessage) (found : Registry.Resolution) : Context where
  message := message
  invocation := found.invocation
  args := .empty
  command := found.node.command.info
  parent := found.node.parent?.map (·.info)
  variation := found.variation.map (·.name)
  debug := false
  config := config

/-- The same with the arguments that the command reads. -/
def reading (ctx : Context) (command : Command) (today : Instant) : Context :=
  let args := command.schema.parse today ctx.invocation
  { ctx with args := args, debug := args.isSet "debug" && ctx.isDeveloper }

/-- The same message for another command. -/
def forDelegate (ctx : Context) (target : CommandInfo) : Context :=
  { ctx with command := target, args := .empty, debug := false }

end Context

namespace Program

/-- The requests of a program, one after another. -/
def exec (bot : Bot) (ctx : Context) : Program → Act (Except CommandError Unit)
  | .done => return .ok ()
  | .fail e => return .error e
  | .send channel message next => do
    let answer ← State.send channel message
    exec bot ctx (next answer)
  | .startTyping channel next => do
    let answer ← State.startTyping channel
    exec bot ctx (next answer)
  | .resolve options next => do
    let resolver : Resolver := ⟨ctx.config.marker, ctx.config.loginCommand, ctx.config.replyBotNames⟩
    exec bot ctx (next (resolver.resolve (← get).stores ctx.args ctx.message options))
  | .sleep milliseconds next => do
    State.advance milliseconds
    exec bot ctx next
  | .lookup name next => exec bot ctx (next ((bot.registry.lookup name).map (·.command.info)))
  | .keepIdentity identity next => do
    modify fun s => s.mapStores fun t => { t with identities := t.identities.insert identity }
    exec bot ctx next
  | .disable guild command devOnly next => do
    modify fun s => s.mapGates (·.disable guild command devOnly)
    exec bot ctx next
  | .enable guild command next => do
    let was ← modifyGet fun s =>
      ((s.stores.gates.enable guild command).1, s.mapGates fun g => (g.enable guild command).2)
    exec bot ctx (next was)
  | .note entry next => do
    State.note entry
    exec bot ctx next

end Program

namespace Bot

/-- The hooks of a bot: the identity sync first, when there is an analytics service. -/
def allHooks (bot : Bot) (stores : Stores) : List Hook :=
  (if stores.analytics.isSome then [⟨"identity_sync", bot.config.identitySync, .syncIdentity⟩] else []) ++
    bot.hooks

/-- Starts the hooks that are sampled for a run. -/
def startHooks (bot : Bot) (ctx : Context) : Act Unit :=
  modify fun s =>
    let selected := (bot.allHooks s.stores).filter fun h => h.policy.selects s.draw ctx.command.name
    { s with started := s.started ++ selected.map fun h => ⟨h, ctx.message.author.id, ctx.command.name⟩ }

/-- Arranges the loading reaction of a slow command, and tells its number. -/
def arrangeReaction (bot : Bot) (ctx : Context) : Option Nat → Act (Option Nat)
  | none => return none
  | some after => modifyGet fun s => (some s.nextReaction, { s with
    reactions := s.reactions.insert s.nextReaction
      ⟨s.clock + after, ctx.message.id, bot.config.loadingReaction, none⟩
    nextReaction := s.nextReaction + 1 })

/-- Shows that the bot is at work. With it the number of the loading reaction. -/
def setUp (bot : Bot) (command : Command) (ctx : Context) : Act (Option Nat) := do
  let _ ← State.startTyping ctx.message.channelId
  let reaction ← bot.arrangeReaction ctx command.loadingAfter
  bot.startHooks ctx
  return reaction

/-- Takes the loading reaction back, shown or not yet. -/
def takeDown (ctx : Context) (bot : Bot) : Option Nat → Act Unit
  | none => return
  | some number => do
    State.settle
    let reaction ← modifyGet fun s =>
      (s.reactions.get? number, { s with reactions := s.reactions.erase number })
    if reaction.any (·.shown == some true) then
      let _ ← State.unreact ctx.message.id bot.config.loadingReaction

/-- What is told of an error: to the user or, of an internal one, to the operators; the
    user gets no detail of those. -/
def tell (bot : Bot) (ctx : Context) (e : CommandError) : Act (Except OutputError Unit) := do
  State.count (.error e.isClientFacing)
  State.countFor "errors"
  if !e.isClientFacing then
    State.report ⟨e.message, ctx.command.name, ctx.command.id.hex, ctx.message.author.id,
      ctx.message.guildId, ctx.message.content⟩
    let answer ← State.send ctx.message.channelId ⟨bot.config.unknownError, none⟩
    return answer.map fun _ => ()
  else if e.isSilent then return .ok ()
  else
    let answer ← State.send ctx.message.channelId ⟨e.message, e.footer⟩
    return answer.map fun _ => ()

/-- The gate's answer for a run; a denial is counted. -/
def askGate (bot : Bot) (ctx : Context) : Act (Except CommandError Unit) := do
  let verdict := Gate.check bot.config.developers (← get).stores ctx.command ctx.parent ctx.message
  if let .error _ := verdict then State.count .gateDenial
  return verdict

/-- The run with the arguments that the command reads. -/
def withArgs (command : Command) (ctx : Context) : Act Context := do
  return ctx.reading command (← get).today

/-- Calls a part of a command's handler. Nothing else calls handlers. -/
def call (bot : Bot) (part : Handler.Part) (command : Command) (ctx : Context) :
    Act (Except CommandError Unit) := do
  Steps.tell (.called part command ctx)
  let result ← (command.handler.program part ctx).exec bot ctx
  Steps.tell (.returned part command result)
  return result

/-- Checks the arguments and runs the handler. -/
def runHandler (bot : Bot) (command : Command) (ctx : Context) : Act (Except CommandError Unit) := do
  State.count (.run command.name)
  State.countFor "command_runs"
  match ValidationRule.checkAll command.rules ctx.args with
  | .error e => return .error e
  | .ok () =>
    match ← bot.call .prerun command ctx with
    | .error e => return .error e
    | .ok () => bot.call .run command ctx

/-- The outcome of an error that was told. -/
def failWith (bot : Bot) (ctx : Context) (e : CommandError) : Act (Except OutputError Outcome) := do
  let told ← bot.tell ctx e
  return told.map fun () => .failed e

/-- The outcome of a handler's run. -/
def conclude (bot : Bot) (ctx : Context) : Except CommandError Unit → Act (Except OutputError Outcome)
  | .error e => bot.failWith ctx e
  | .ok () => return .ok .completed

/-- Takes the set-up down, unless an error could not be told. -/
def leave (bot : Bot) (ctx : Context) (reaction : Option Nat) :
    Except OutputError Outcome → Act (Except OutputError Outcome)
  | .error e => return .error e
  | .ok outcome => do
    takeDown ctx bot reaction
    return .ok outcome

/-- Runs a command for a message, or the command that it delegates to. -/
def execute (bot : Bot) (command : Command) (ctx : Context) : Act (Except OutputError Outcome) :=
  if !Gate.passesRollout bot.config.developers ctx.command ctx.message then do
    State.count .rolloutMiss
    return .ok .rolledOut
  else do
    let reaction ← bot.setUp command ctx
    match ← bot.askGate ctx with
    | .error e => bot.failWith ctx e >>= bot.leave ctx reaction
    | .ok () => do
      let ctx ← withArgs command ctx
      match _h : command.delegateFor ctx.args with
      | some d => do
        State.count .delegation
        let inner ← execute bot d.2 (ctx.forDelegate d.2.info)
        bot.leave ctx reaction (inner.map fun o => .delegated d.2.name o)
      | none => do
        let result ← bot.runHandler command ctx
        bot.conclude ctx result >>= bot.leave ctx reaction
termination_by sizeOf command
decreasing_by exact Command.sizeOf_delegate (Command.delegateFor_mem _h)

/-- The answer to an unknown command, with a suggestion if there is one. -/
def unknownCommandText (bot : Bot) (text : String) (e : CommandError) : String :=
  e.message ++ match (tokenize text).head?.bind fun t => bot.registry.suggest t.text with
    | some name => " Did you mean `" ++ bot.config.marker ++ name ++ "`?"
    | none => ""

/-- Says that no command has this name, if the bot is set to. -/
def announceUnknown (bot : Bot) (message : InboundMessage) (text : String) (e : CommandError) :
    Act (Except OutputError Outcome) := do
  if bot.config.announceUnknownCommands then
    let answer ← State.send message.channelId ⟨bot.unknownCommandText text e, none⟩
    return answer.map fun _ => .notFound
  else return .ok .notFound

/-- The text of an invocation; none for other messages and those of bots. -/
def invocationText (bot : Bot) (message : InboundMessage) : Option String :=
  if message.author.bot then none else stripMarker message.content bot.config.marker

/-- Handles one message. An error means that a failure could not even be told. -/
def handle (bot : Bot) (message : InboundMessage) : Act (Except OutputError Outcome) :=
  match bot.invocationText message with
  | none => return .ok .ignored
  | some text => match bot.registry.resolve text with
    | .error e => bot.announceUnknown message text e
    | .ok resolution => do
      State.count .received
      bot.execute resolution.node.command (.ofResolution bot.config message resolution)

/-- Handles one message and lets the hooks finish. -/
def handleAndSettle (bot : Bot) (message : InboundMessage) : Act (Except OutputError Outcome) := do
  let outcome ← bot.handle message
  State.settle
  return outcome

end Bot

end ChatBot
