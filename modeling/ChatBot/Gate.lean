/-
  ChatBot.Gate — whether a resolved command may run for a message.

  Rollout is asked first (`passesRollout`). Then `check` asks, in this order: is the
  command for developers only; is it or its parent disabled in the server; and, for
  others than developers, is the channel blacklisted and do permissions exclude the
  author, for the command and then for its parent. Direct messages have no server and
  meet only the first question.
-/
import ChatBot.Command.Info
import ChatBot.Service.Stores

namespace ChatBot.Gate

open CommandError (orFail)

/-- Developers always pass; for others the policy decides, by server or, in a direct
    message, by author. -/
def passesRollout (developers : List String) (command : CommandInfo) (message : InboundMessage) : Bool :=
  developers.contains message.author.id ||
    match command.rollout with
    | none => true
    | some policy => policy.admits message.guildId (message.guildId.getD message.author.id) command.id

def deny (reason : String) : CommandError := .permissionDenied reason

/-- The record is about the author or a role of theirs. -/
def appliesTo (message : InboundMessage) (record : PermissionRecord) : Bool :=
  match record.entity with
  | .user => record.entityId == message.author.id
  | .role => message.authorRoles.contains record.entityId

/-- A blacklisting excludes; a whitelist excludes all whom no record of it names. -/
def checkPermissions (message : InboundMessage) (records : List PermissionRecord) :
    Except CommandError Unit :=
  if (records.filter (·.kind == .blacklist)).any (appliesTo message) then
    .error (deny "You don't have permission to run this command!")
  else
    let whitelist := records.filter (·.kind == .whitelist)
    if !whitelist.isEmpty && !whitelist.any (appliesTo message) then
      .error (deny "This command is restricted to specific users and roles!")
    else .ok ()

/-- The command is not disabled in the server. -/
def checkEnabled (stores : Stores) (guild : String) (command : CommandInfo) : Except CommandError Unit := do
  let status ← orFail (stores.disabledStatus guild command.id.hex)
  if !status.disabled then .ok ()
  else if status.devOnly then
    .error (deny "This command has been temporarily disabled by the developers")
  else .error (deny "This command has been disabled in this server")

/-- Neither the channel nor a permission excludes the author. -/
def checkAllowed (stores : Stores) (guild : String) (message : InboundMessage) (command : CommandInfo) :
    Except CommandError Unit := do
  let channels ← orFail (stores.channels guild command.id.hex)
  if channels.contains message.channelId then
    .error (deny "You can't run this command in this channel!")
  else do
    let records ← orFail (stores.permissions guild command.id.hex)
    checkPermissions message records

/-- The check of every command in turn; the first failure counts. -/
def checkEach (check : CommandInfo → Except CommandError Unit) : List CommandInfo → Except CommandError Unit
  | [] => .ok ()
  | c :: cs => do
    check c
    checkEach check cs

/-- The command may run; the parent is the command under which it was called. -/
def check (developers : List String) (stores : Stores) (command : CommandInfo) (parent : Option CommandInfo)
    (message : InboundMessage) : Except CommandError Unit :=
  let developer := developers.contains message.author.id
  let chain := command :: parent.toList
  if chain.any (·.dev) && !developer then
    .error (deny "This command is only available to developers").silenced
  else match message.guildId with
    | none => .ok ()
    | some guild => do
      checkEach (checkEnabled stores guild) chain
      if developer then .ok () else checkEach (checkAllowed stores guild message) chain

end ChatBot.Gate
