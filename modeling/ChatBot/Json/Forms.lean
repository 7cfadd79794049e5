/-
  ChatBot.Json.Forms — the JSON forms of messages, users, records and policies.

  Every type is read (`ofJson?`) and written (`toJson`); writing gives every field.
-/
import ChatBot.Command.Info
import ChatBot.Json.Fields
import ChatBot.Metrics
import ChatBot.Resolver

namespace ChatBot

open Json

/-! ## Users and messages -/

namespace PlatformUser

def ofJson? (value : Json) : Option PlatformUser := do
  match ← value.fields? ["id", "username", "display_name", "bot"] with
  | [id, username, displayName, bot] =>
    some ⟨← id.required text?, ← username.required text?, ← displayName.optional text?,
      ← bot.withDefault false bool?⟩
  | _ => none

def toJson (u : PlatformUser) : Json :=
  .ofMembers [("id", ofText u.id), ("username", ofText u.username), ("display_name", ofText? u.displayName),
    ("bot", .bool u.bot)]

end PlatformUser

namespace InboundMessage

def ofJson? (value : Json) : Option InboundMessage := do
  match ← value.fields? ["id", "content", "author", "guild_id", "channel_id", "mentions", "reply_to",
      "author_roles"] with
  | [id, content, author, guild, channel, mentions, replyTo, roles] =>
    some
      { id := ← id.required text?
        content := ← content.required text?
        author := ← author.required PlatformUser.ofJson?
        guildId := ← guild.optional text?
        channelId := ← channel.required text?
        mentions := ← mentions.withDefault [] (listOf? PlatformUser.ofJson?)
        replyTo := ← replyTo.withDefault none (nullable PlatformUser.ofJson?)
        authorRoles := ← roles.withDefault [] texts? }
  | _ => none

def toJson (m : InboundMessage) : Json :=
  .ofMembers [("id", ofText m.id), ("content", ofText m.content), ("author", m.author.toJson),
    ("guild_id", ofText? m.guildId), ("channel_id", ofText m.channelId),
    ("mentions", .list (m.mentions.map PlatformUser.toJson)),
    ("reply_to", (m.replyTo.map PlatformUser.toJson).getD .null), ("author_roles", ofTexts m.authorRoles)]

end InboundMessage

namespace OutgoingMessage

def ofJson? (value : Json) : Option OutgoingMessage := do
  match ← value.fields? ["text", "footer"] with
  | [text, footer] => some ⟨← text.required text?, ← footer.optional text?⟩
  | _ => none

def toJson (m : OutgoingMessage) : Json := .ofMembers [("text", ofText m.text), ("footer", ofText? m.footer)]

end OutgoingMessage

/-! ## Commands -/

namespace Variation

def ofJson? (value : Json) : Option Variation := do
  match ← value.fields? ["name", "tokens", "description"] with
  | [name, tokens, description] =>
    some ⟨← name.required text?, ← tokens.required texts?, ← description.optional text?⟩
  | _ => none

def toJson (v : Variation) : Json :=
  .ofMembers [("name", ofText v.name), ("tokens", ofTexts v.tokens), ("description", ofText? v.description)]

end Variation

namespace RolloutPolicy

/-- The share is a byte and is taken as it is. -/
def ofJson? (value : Json) : Option RolloutPolicy := do
  match ← value.fields? ["guilds", "percentage"] with
  | [guilds, percentage] =>
    some ⟨← guilds.withDefault [] texts?, ← percentage.withDefault none (nullable (natBelow? 256))⟩
  | _ => none

def toJson (p : RolloutPolicy) : Json :=
  .ofMembers [("guilds", ofTexts p.guilds), ("percentage", (p.percentage.map ofNat).getD .null)]

end RolloutPolicy

/-! ## Permissions -/

namespace PermissionEntity

def name : PermissionEntity → String
  | .user => "user"
  | .role => "role"

def ofJson? (value : Json) : Option PermissionEntity :=
  (bareAlternative? value).bind fun n => [user, role].find? (·.name == n)

end PermissionEntity

namespace PermissionKind

def name : PermissionKind → String
  | .whitelist => "whitelist"
  | .blacklist => "blacklist"

def ofJson? (value : Json) : Option PermissionKind :=
  (bareAlternative? value).bind fun n => [whitelist, blacklist].find? (·.name == n)

end PermissionKind

namespace PermissionRecord

def ofJson? (value : Json) : Option PermissionRecord := do
  match ← value.fields? ["guild_id", "command_id", "entity_id", "entity", "kind"] with
  | [guild, command, entityId, entity, kind] =>
    some ⟨← guild.required text?, ← command.required text?, ← entityId.required text?,
      ← entity.required PermissionEntity.ofJson?, ← kind.required PermissionKind.ofJson?⟩
  | _ => none

def toJson (r : PermissionRecord) : Json :=
  .ofMembers [("guild_id", ofText r.guildId), ("command_id", ofText r.commandId), ("entity_id", ofText r.entityId),
    ("entity", ofText r.entity.name), ("kind", ofText r.kind.name)]

end PermissionRecord

/-! ## Targets and accounts -/

namespace MentionTarget

def ofJson? (value : Json) : Option MentionTarget := do
  match ← alternative? value with
  | ("Platform", contents) => match ← contents.fields? ["id"] with
    | [id] => some (.platform (← id.required text?))
    | _ => none
  | ("PlatformId", contents) => contents.text?.map .platformId
  | ("PlatformUsername", contents) => contents.text?.map .platformUsername
  | ("RemoteUsername", contents) => contents.text?.map .remoteUsername
  | _ => none

def toJson : MentionTarget → Json
  | .platform id => .ofMembers [("Platform", .ofMembers [("id", ofText id)])]
  | .platformId id => .ofMembers [("PlatformId", ofText id)]
  | .platformUsername name => .ofMembers [("PlatformUsername", ofText name)]
  | .remoteUsername name => .ofMembers [("RemoteUsername", ofText name)]

end MentionTarget

namespace Requestable

def ofJson? (value : Json) : Option Requestable := do
  match ← alternative? value with
  | ("Username", contents) => contents.text?.map .username
  | ("Session", contents) => match ← contents.fields? ["username", "session_key"] with
    | [account, key] => some (.session (← account.required text?) (← key.required text?))
    | _ => none
  | _ => none

def toJson : Requestable → Json
  | .username account => .ofMembers [("Username", ofText account)]
  | .session account key =>
    .ofMembers [("Session", .ofMembers [("username", ofText account), ("session_key", ofText key)])]

end Requestable

/-! ## Metrics -/

/-- The counters, and for how many seconds the bot has been running. -/
def Metrics.toJson (m : Metrics) (uptime : Nat) : Json :=
  .ofMembers [("messages_received", ofNat m.messagesReceived), ("command_runs", ofNat m.commandRuns),
    ("rollout_misses", ofNat m.rolloutMisses), ("gate_denials", ofNat m.gateDenials),
    ("client_errors", ofNat m.clientErrors), ("internal_errors", ofNat m.internalErrors),
    ("delegations", ofNat m.delegations), ("hook_failures", ofNat m.hookFailures),
    ("runs_by_command", .ofMembers (m.runsByCommand.sorted.map fun e => (e.1, ofNat e.2))),
    ("uptime_secs", ofNat uptime)]

/-! ## By the name of the type -/

/-- Readers by type, each of which gives the form that writing what was read has. -/
def Json.forms : List (String × (Json → Option Json)) := [
  ("InboundMessage", fun v => (InboundMessage.ofJson? v).map InboundMessage.toJson),
  ("PlatformUser", fun v => (PlatformUser.ofJson? v).map PlatformUser.toJson),
  ("RolloutPolicy", fun v => (RolloutPolicy.ofJson? v).map RolloutPolicy.toJson),
  ("PermissionRecord", fun v => (PermissionRecord.ofJson? v).map PermissionRecord.toJson),
  ("MentionTarget", fun v => (MentionTarget.ofJson? v).map MentionTarget.toJson),
  ("Requestable", fun v => (Requestable.ofJson? v).map Requestable.toJson),
  ("Variation", fun v => (Variation.ofJson? v).map Variation.toJson),
  ("OutgoingMessage", fun v => (OutgoingMessage.ofJson? v).map OutgoingMessage.toJson)]

end ChatBot
