/-
  ChatBot.Resolver — whom a command is about, and under which account it may act.

  The target is the first of these that was given: a remote user name, a platform
  reference, an id, a nickname in the server, a free-text user name; without any it is
  the sender. The options of a command say what has to be known of sender and target.
-/
import ChatBot.Argument.Value
import ChatBot.Perspective
import ChatBot.Service.Stores

namespace ChatBot

open Text
open CommandError (orFail)

/-- What a command requires of sender and target, and the arguments it reads. -/
structure ResolverOptions where
  /-- The sender has an account, even when somebody else is the target. -/
  senderRequired : Bool
  /-- Some account is found. -/
  usernameRequired : Bool
  userArgument : String
  inputArgument : String
  remoteMentionArgument : String
  idMentionArgument : String
  platformUsernameArgument : String
  /-- Names stand between backticks. -/
  asCode : Bool
  fetchPlatformUser : Bool
  fetchAnalyticsIdentity : Bool
  /-- A remote user name belongs to somebody the bot knows. -/
  reverseLookupRequired : Bool
  /-- The sender has a credential. -/
  authenticationRequired : Bool
  /-- Sender and target have been indexed. -/
  requireIndexed : Bool
  deriving DecidableEq

def ResolverOptions.standard : ResolverOptions where
  senderRequired := false
  usernameRequired := true
  userArgument := "user"
  inputArgument := "username"
  remoteMentionArgument := "lfmUser"
  idMentionArgument := "userID"
  platformUsernameArgument := "discordUsername"
  asCode := true
  fetchPlatformUser := false
  fetchAnalyticsIdentity := false
  reverseLookupRequired := false
  authenticationRequired := false
  requireIndexed := false

/-- What a call to the remote service is made as. -/
inductive Requestable where
  | username (username : String)
  | session (username sessionKey : String)
  deriving DecidableEq

namespace Requestable

/-- With the credential of the identity, if it has one. -/
def forIdentity (username : String) (identity : Option LocalIdentity) : Requestable :=
  match identity.bind (·.sessionKey) with
  | some key => .session username key
  | none => .username username

def account : Requestable → String
  | .username u | .session u _ => u

end Requestable

structure ResolvedMentions where
  senderUsername : Option String
  /-- The target's account, or else the sender's. -/
  username : Option String
  senderRequestable : Option Requestable
  requestable : Option Requestable
  perspective : Perspective
  senderIdentity : Option LocalIdentity
  mentionedIdentity : Option LocalIdentity
  platformUser : Option PlatformUser
  analyticsIdentity : Option AnalyticsIdentity
  /-- Somebody was referred to. -/
  mentioned : Bool
  deriving DecidableEq

/-- The bot's own settings for resolution. -/
structure Resolver where
  marker : String
  loginCommand : String
  /-- The bots whose mention by a reply stands for the next mention; none means any. -/
  replyBotNames : List String
  deriving DecidableEq

namespace Resolver

/-- Whom the arguments refer to. -/
structure Mentioned where
  username : Option String
  identity : Option LocalIdentity
  platformId : Option String
  referenced : Bool
  deriving DecidableEq

def Mentioned.nobody : Mentioned := ⟨none, none, none, false⟩

/-- A bot whose replies are redirected. -/
def isRecognisedBot (r : Resolver) (u : PlatformUser) : Bool :=
  u.bot && (r.replyBotNames.isEmpty || r.replyBotNames.any (alike · u.username))

/-- A reply to a recognised bot mentions that bot; the next mention is meant, if any. -/
def redirectReply (r : Resolver) (message : InboundMessage) (id : String) : Option String :=
  match message.replyTo with
  | none => some id
  | some author =>
    if author.id != id || !r.isRecognisedBot author then some id
    else (message.mentions.find? (·.id != author.id)).map (·.id)

/-- The platform id that the arguments name. -/
def platformIdFrom (r : Resolver) (stores : Stores) (args : ParsedArgs) (message : InboundMessage)
    (options : ResolverOptions) : Except CommandError (Option String) :=
  match (args.mention? options.userArgument).bind (·.platformId?) with
  | some id => .ok (r.redirectReply message id)
  | none =>
    match (args.mention? options.idMentionArgument).bind (·.platformId?) with
    | some id => .ok (some id)
    | none =>
      match args.mention? options.platformUsernameArgument, stores.directory, message.guildId with
      | some (.platformUsername name), some _, some guild => do
        match ← orFail (stores.findMember guild name) with
        | some member => .ok (some member.id)
        | none => .error (.notFound ("A member named `" ++ name ++ "`"))
      | _, _, _ => .ok none

/-- Who has an account, when a requirement needs to know it. -/
def ownerOf (stores : Stores) (username : String) (options : ResolverOptions) :
    Except CommandError (Option LocalIdentity) :=
  if options.reverseLookupRequired || options.requireIndexed then orFail (stores.userByUsername username)
  else .ok none

/-- The target behind a remote user name. -/
def remoteTarget (r : Resolver) (stores : Stores) (name : String) (options : ResolverOptions) :
    Except CommandError Mentioned := do
  let identity ← ownerOf stores name options
  if options.reverseLookupRequired && identity.isNone then
    .error (.reverseLookupFailed name (r.marker ++ r.loginCommand))
  else .ok ⟨some name, identity, identity.map (·.platformId), true⟩

/-- The target behind a platform id. -/
def platformTarget (stores : Stores) (platformId : String) (options : ResolverOptions) :
    Except CommandError Mentioned := do
  let identity ← orFail (stores.user platformId)
  let username := identity.bind (·.remoteUsername)
  if username.isNone && options.usernameRequired then .error (.unregistered .mentionedNotRegistered)
  else .ok ⟨username, identity, some platformId, true⟩

/-- Whom the arguments refer to, by the first source that was given. -/
def mentioned (r : Resolver) (stores : Stores) (args : ParsedArgs) (message : InboundMessage)
    (options : ResolverOptions) : Except CommandError Mentioned :=
  match args.mention? options.remoteMentionArgument with
  | some (.remoteUsername name) => r.remoteTarget stores name options
  | _ => do
    match ← r.platformIdFrom stores args message options with
    | some id => platformTarget stores id options
    | none =>
      match args.text? options.inputArgument with
      | some name => r.remoteTarget stores name options
      | none => .ok .nobody

/-- The requirement that sender or target miss. -/
def missing (r : Resolver) (options : ResolverOptions) (sender : Option LocalIdentity)
    (target : Mentioned) : Option UnregisteredReason :=
  let senderUsername := sender.bind (·.remoteUsername)
  if options.senderRequired && senderUsername.isNone then some (.senderNotLoggedIn r.marker)
  else if options.usernameRequired && (target.username.or senderUsername).isNone then
    some (.senderNotLoggedIn r.marker)
  else if options.authenticationRequired && (sender.bind (·.sessionKey)).isNone then
    some (.senderNotAuthenticated r.marker)
  else if options.requireIndexed && !sender.any (·.isIndexed) then some (.senderNotIndexed r.marker)
  else if options.requireIndexed && target.referenced && !target.identity.any (·.isIndexed) then
    some (.mentionedNotIndexed r.marker)
  else none

/-- The platform user to show: the target by id, else the author. A failing directory
    knows nobody. -/
def platformUser (stores : Stores) (message : InboundMessage) (options : ResolverOptions)
    (target : Mentioned) : Option PlatformUser :=
  if !options.fetchPlatformUser then none
  else match target.platformId with
    | none => some message.author
    | some id => match stores.fetchUser id with
      | .ok user => user
      | .error _ => none

/-- What the analytics service knows of the account; nothing when it fails. -/
def analyticsIdentity (stores : Stores) (options : ResolverOptions) (username : Option String) :
    Option AnalyticsIdentity :=
  if !options.fetchAnalyticsIdentity then none
  else match username with
    | none => none
    | some u => match stores.analyticsIdentity u with
      | .ok identity => identity
      | .error _ => none

/-- What is known when every requirement is met. -/
def describe (stores : Stores) (message : InboundMessage) (options : ResolverOptions)
    (sender : Option LocalIdentity) (target : Mentioned) : ResolvedMentions :=
  let senderUsername := sender.bind (·.remoteUsername)
  let username := target.username.or senderUsername
  let shown := platformUser stores message options target
  let senderName := senderUsername.getD message.author.username
  let perspective := Perspective.build senderName (username.getD senderName) options.asCode
  { senderUsername := senderUsername
    username := username
    senderRequestable := senderUsername.map (Requestable.forIdentity · sender)
    requestable := username.map
      (Requestable.forIdentity · (if target.referenced then target.identity else sender))
    perspective := match shown, target.referenced with
      | some user, true => perspective.withDisplayName user.name
      | _, _ => perspective
    senderIdentity := sender
    mentionedIdentity := target.identity
    platformUser := shown
    analyticsIdentity := analyticsIdentity stores options username
    mentioned := target.referenced }

/-- Sender and target of a message, or why they cannot be used. -/
def resolve (r : Resolver) (stores : Stores) (args : ParsedArgs) (message : InboundMessage)
    (options : ResolverOptions) : Except CommandError ResolvedMentions := do
  let sender ← orFail (stores.user message.author.id)
  let target ← r.mentioned stores args message options
  match r.missing options sender target with
  | some reason => .error (.unregistered reason)
  | none => .ok (describe stores message options sender target)

end Resolver

end ChatBot
