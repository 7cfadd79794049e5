/-
  ChatBot.Service.Message — users, their records elsewhere, and messages in and out.
-/
import ChatBot.Calendar

namespace ChatBot

/-- A user as the chat platform knows them. -/
structure PlatformUser where
  id : String
  username : String
  /-- The nickname in the server. -/
  displayName : Option String
  bot : Bool
  deriving DecidableEq

def PlatformUser.name (u : PlatformUser) : String := u.displayName.getD u.username

/-- What the bot knows of a platform user. -/
structure LocalIdentity where
  platformId : String
  /-- The account on the remote service. -/
  remoteUsername : Option String
  /-- The credential for calls on the account's behalf. -/
  sessionKey : Option String
  lastIndexed : Option Instant
  deriving DecidableEq

def LocalIdentity.isIndexed (i : LocalIdentity) : Bool := i.lastIndexed.isSome

/-- What the analytics service knows of an account. -/
structure AnalyticsIdentity where
  id : String
  remoteUsername : String
  platformId : Option String
  deriving DecidableEq

structure InboundMessage where
  id : String
  content : String
  author : PlatformUser
  /-- The server; none for a direct message. -/
  guildId : Option String
  channelId : String
  /-- The users mentioned, in order. -/
  mentions : List PlatformUser
  /-- The author of the message that this one answers. -/
  replyTo : Option PlatformUser
  authorRoles : List String
  deriving DecidableEq

structure OutgoingMessage where
  text : String
  footer : Option String
  deriving DecidableEq

/-- A message that was delivered. -/
structure SentMessage where
  id : String
  channelId : String
  deriving DecidableEq

end ChatBot
