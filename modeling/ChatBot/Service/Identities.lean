/-
  ChatBot.Service.Identities — the bot's own records of users, the platform's directory,
  and the analytics service.
-/
import ChatBot.Dict
import ChatBot.Error
import ChatBot.Service.Message
import ChatBot.Text.Ascii
import ChatBot.Text.CaseMap

namespace ChatBot

open Text

/-- Records by platform id. -/
structure IdentityStore where
  users : Dict String LocalIdentity

namespace IdentityStore

def empty : IdentityStore := ⟨.empty⟩

def insert (s : IdentityStore) (i : LocalIdentity) : IdentityStore := ⟨s.users.insert i.platformId i⟩

def remove (s : IdentityStore) (platformId : String) : IdentityStore := ⟨s.users.erase platformId⟩

def size (s : IdentityStore) : Nat := s.users.size

def user? (s : IdentityStore) (platformId : String) : Option LocalIdentity := s.users.get? platformId

/-- The account is this one, up to the case of ASCII letters. -/
def hasUsername (username : String) (i : LocalIdentity) : Bool :=
  match i.remoteUsername with
  | some u => alike u username
  | none => false

def byUsername? (s : IdentityStore) (username : String) : Option LocalIdentity :=
  s.users.values.find? (hasUsername username)

end IdentityStore

/-- The platform's users, and the members of each server in the order of joining. -/
structure Directory where
  users : Dict String PlatformUser
  members : Dict String (List String)

namespace Directory

def empty : Directory := ⟨.empty, .empty⟩

def addUser (d : Directory) (u : PlatformUser) : Directory := { d with users := d.users.insert u.id u }

def addMember (d : Directory) (guild : String) (u : PlatformUser) : Directory :=
  { d with members := d.members.insert guild ((d.members.get? guild).getD [] ++ [u.id]) }.addUser u

def user? (d : Directory) (id : String) : Option PlatformUser := d.users.get? id

/-- The user name or the nickname is this one, up to the case of ASCII letters. -/
def isNamed (name : String) (u : PlatformUser) : Bool :=
  alike u.username name || (match u.displayName with | some n => alike n name | none => false)

/-- The members of a server. -/
def membersOf (d : Directory) (guild : String) : List PlatformUser :=
  ((d.members.get? guild).getD []).filterMap d.users.get?

def findMember? (d : Directory) (guild name : String) : Option PlatformUser :=
  (d.membersOf guild).find? (isNamed name)

end Directory

/-- The analytics service: accounts by name in lowercase, the users pushed to it, and
    whether it refuses every call. -/
structure Analytics where
  identities : Dict String AnalyticsIdentity
  synced : List String
  failing : Bool

namespace Analytics

def empty : Analytics := ⟨.empty, [], false⟩

def insert (a : Analytics) (i : AnalyticsIdentity) : Analytics :=
  { a with identities := a.identities.insert (lower i.remoteUsername) i }

def refusal : ServiceError := .unavailable "analytics" "configured to fail"

def identity (a : Analytics) (username : String) : Except ServiceError (Option AnalyticsIdentity) :=
  if a.failing then .error refusal else .ok (a.identities.get? (lower username))

/-- Pushes a user's record. -/
def sync (a : Analytics) (i : LocalIdentity) : Except ServiceError Analytics :=
  if a.failing then .error refusal else .ok { a with synced := a.synced ++ [i.platformId] }

end Analytics

end ChatBot
