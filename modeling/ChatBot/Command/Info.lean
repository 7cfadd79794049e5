/-
  ChatBot.Command.Info — what is declared about a command: its id, its names, who sees
  it, and where it is rolled out.
-/
import ChatBot.Digest.Sha256
import ChatBot.Text.Ascii

namespace ChatBot

open Text Digest

/-- The stable id of a command, under which records about it are kept. -/
structure CommandId where
  hex : String
  deriving DecidableEq

/-- The first 16 bytes of the digest of the seed. -/
def CommandId.ofSeed (seed : String) : CommandId := ⟨Digest.hex ((sha256 (utf8 seed)).take 16)⟩

/-- Other spellings of a command that switch its behaviour. -/
structure Variation where
  name : String
  tokens : List String
  description : Option String
  deriving DecidableEq

def Variation.isSpelled (v : Variation) (token : String) : Bool := v.tokens.any (alike · token)

/-! ## Rollout -/

/-- Where a command is active. -/
structure RolloutPolicy where
  /-- Servers that have it in any case. -/
  guilds : List String
  /-- The share of other contexts, of a hundred. -/
  percentage : Option Nat
  deriving DecidableEq

namespace RolloutPolicy

/-- Servers, and a share of at most all contexts. -/
def make (guilds : List String) (percentage : Option Nat) : RolloutPolicy :=
  ⟨guilds, percentage.map (min · 100)⟩

/-- The bucket, from 0 to 99, of a context for a command. -/
def bucket (contextKey : String) (command : CommandId) : Nat :=
  ((sha256 (utf8 (contextKey ++ ":" ++ command.hex))).take 8).foldl (fun n b => n * 256 + b.toNat) 0 % 100

/-- The command is active in a context. A policy that names neither servers nor a share
    admits every context. -/
def admits (p : RolloutPolicy) (guild : Option String) (contextKey : String) (command : CommandId) : Bool :=
  (match guild with | some g => p.guilds.contains g | none => false) ||
    match p.percentage with
    | some share => bucket contextKey command < share
    | none => p.guilds.isEmpty

end RolloutPolicy

/-! ## Commands as declared -/

structure CommandInfo where
  seed : String
  name : String
  friendlyName : Option String
  aliases : List String
  variations : List Variation
  description : String
  /-- Runs, and is not listed. -/
  secret : Bool
  /-- Runs for developers only. -/
  dev : Bool
  /-- Is found by id only. -/
  archived : Bool
  rollout : Option RolloutPolicy

namespace CommandInfo

def id (c : CommandInfo) : CommandId := .ofSeed c.seed

/-- A command with a seed, a name and nothing else. -/
def make (seed name : String) : CommandInfo :=
  ⟨seed, name, none, [], [], "", false, false, false, none⟩

def displayName (c : CommandInfo) : String := c.friendlyName.getD c.name

/-- The name, then the aliases. -/
def names (c : CommandInfo) : List String := c.name :: c.aliases

def isVisible (c : CommandInfo) : Bool := !(c.secret || c.dev || c.archived)

def hasName (c : CommandInfo) (token : String) : Bool := alike c.name token

def hasAlias (c : CommandInfo) (token : String) : Bool := c.aliases.any (alike · token)

def variationFor (c : CommandInfo) (token : String) : Option Variation :=
  c.variations.find? (·.isSpelled token)

end CommandInfo

end ChatBot
