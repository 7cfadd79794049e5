/-
  ChatBot.Service.Stores — everything outside the bot that it asks, and which of these
  calls do not answer.
-/
import ChatBot.Service.GateRecords
import ChatBot.Service.Identities

namespace ChatBot

/-- A question to a store or to the platform. -/
inductive ServiceCall where
  | user | userByUsername | fetchUser | findMember | disabledStatus | permissions | channels
  deriving DecidableEq

structure Stores where
  identities : IdentityStore
  /-- None when the platform has no directory. -/
  directory : Option Directory
  /-- None when there is no analytics service. -/
  analytics : Option Analytics
  gates : GateRecords
  /-- The calls that fail, and how. -/
  outages : ServiceCall → Option ServiceError

namespace Stores

def empty : Stores := ⟨.empty, none, none, .empty, fun _ => none⟩

/-- The call fails from now on, or answers again. -/
def setOutage (s : Stores) (call : ServiceCall) (outage : Option ServiceError) : Stores :=
  { s with outages := fun c => if c = call then outage else s.outages c }

/-- An answer, unless the call fails. -/
def ask {α : Type} (s : Stores) (call : ServiceCall) (answer : α) : Except ServiceError α :=
  match s.outages call with
  | some e => .error e
  | none => .ok answer

theorem ask_eq_ok {α : Type} {s : Stores} {call : ServiceCall} {answer a : α} :
    s.ask call answer = .ok a ↔ s.outages call = none ∧ answer = a := by
  unfold ask
  cases s.outages call <;> simp

def user (s : Stores) (platformId : String) : Except ServiceError (Option LocalIdentity) :=
  s.ask .user (s.identities.user? platformId)

def userByUsername (s : Stores) (username : String) : Except ServiceError (Option LocalIdentity) :=
  s.ask .userByUsername (s.identities.byUsername? username)

/-- A user of the platform; nobody is known without a directory. -/
def fetchUser (s : Stores) (platformId : String) : Except ServiceError (Option PlatformUser) :=
  match s.directory with
  | some d => s.ask .fetchUser (d.user? platformId)
  | none => .ok none

/-- A member of a server by user name or nickname; nobody is known without a directory. -/
def findMember (s : Stores) (guild name : String) : Except ServiceError (Option PlatformUser) :=
  match s.directory with
  | some d => s.ask .findMember (d.findMember? guild name)
  | none => .ok none

def analyticsIdentity (s : Stores) (username : String) : Except ServiceError (Option AnalyticsIdentity) :=
  match s.analytics with
  | some a => a.identity username
  | none => .ok none

def disabledStatus (s : Stores) (guild command : String) : Except ServiceError DisabledStatus :=
  s.ask .disabledStatus (s.gates.status guild command)

def permissions (s : Stores) (guild command : String) : Except ServiceError (List PermissionRecord) :=
  s.ask .permissions (s.gates.permissionsOf guild command)

def channels (s : Stores) (guild command : String) : Except ServiceError (List String) :=
  s.ask .channels (s.gates.channelsOf guild command)

end Stores

end ChatBot
