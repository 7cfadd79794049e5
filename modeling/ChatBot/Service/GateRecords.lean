/-
  ChatBot.Service.GateRecords — what server admins decided about commands: disabled
  commands, permissions of users and roles, and channels where a command may not run.

  `AdminStep` is one decision; the records are what a history of decisions leaves.
-/
import ChatBot.Dict

namespace ChatBot

/-- The disabled state of a command in a server. -/
structure DisabledStatus where
  disabled : Bool
  /-- By a developer of the bot. -/
  devOnly : Bool
  deriving DecidableEq

inductive PermissionEntity where
  | user | role
  deriving DecidableEq

inductive PermissionKind where
  | whitelist | blacklist
  deriving DecidableEq

structure PermissionRecord where
  guildId : String
  commandId : String
  entityId : String
  entity : PermissionEntity
  kind : PermissionKind
  deriving DecidableEq

/-- Records by server and command id, permissions in the order in which they were made. -/
structure GateRecords where
  disabled : Dict (String × String) DisabledStatus
  permissions : List PermissionRecord
  channels : Dict (String × String) (List String)

namespace GateRecords

def empty : GateRecords := ⟨.empty, [], .empty⟩

def disable (g : GateRecords) (guild command : String) (devOnly : Bool) : GateRecords :=
  { g with disabled := g.disabled.insert (guild, command) ⟨true, devOnly⟩ }

/-- The command was disabled and no longer is, or it was not. -/
def enable (g : GateRecords) (guild command : String) : Bool × GateRecords :=
  (g.disabled.contains (guild, command), { g with disabled := g.disabled.erase (guild, command) })

def addPermission (g : GateRecords) (record : PermissionRecord) : GateRecords :=
  { g with permissions := g.permissions ++ [record] }

def blacklistChannel (g : GateRecords) (guild command channel : String) : GateRecords :=
  { g with channels :=
      g.channels.insert (guild, command) ((g.channels.get? (guild, command)).getD [] ++ [channel]) }

def status (g : GateRecords) (guild command : String) : DisabledStatus :=
  (g.disabled.get? (guild, command)).getD ⟨false, false⟩

def permissionsOf (g : GateRecords) (guild command : String) : List PermissionRecord :=
  g.permissions.filter fun r => r.guildId == guild && r.commandId == command

def channelsOf (g : GateRecords) (guild command : String) : List String :=
  (g.channels.get? (guild, command)).getD []

end GateRecords

/-- One decision of an admin. -/
inductive AdminStep where
  | disable (guild command : String) (devOnly : Bool)
  | enable (guild command : String)
  | permit (record : PermissionRecord)
  | blacklist (guild command channel : String)
  deriving DecidableEq

def AdminStep.apply (g : GateRecords) : AdminStep → GateRecords
  | .disable guild command devOnly => g.disable guild command devOnly
  | .enable guild command => (g.enable guild command).2
  | .permit record => g.addPermission record
  | .blacklist guild command channel => g.blacklistChannel guild command channel

/-- The records after a history, oldest decision first. -/
def GateRecords.ofHistory (steps : List AdminStep) : GateRecords := steps.foldl AdminStep.apply .empty

end ChatBot
