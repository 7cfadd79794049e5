/-
  ChatBot.Error — why a run stops, and what the user and the operators are told.

  A `CommandError` is raised inside a run. Its message goes to the chat unless it is
  silent or unknown; an unknown error is an internal failure whose text stays inside.
  `ServiceError` and `OutputError` come from the stores and from the chat; inside a run
  they are unknown errors.
-/

namespace ChatBot

/-- Why somebody's record cannot be used. The marker starts the command suggested. -/
inductive UnregisteredReason where
  | senderNotLoggedIn (marker : String)
  | mentionedNotRegistered
  | senderNotAuthenticated (marker : String)
  | senderNotIndexed (marker : String)
  | mentionedNotIndexed (marker : String)
  deriving DecidableEq

def UnregisteredReason.message : UnregisteredReason → String
  | .senderNotLoggedIn marker => "please sign in with a last.fm account! (`" ++ marker ++ "login`)"
  | .mentionedNotRegistered => "that user isn't signed in to the bot!"
  | .senderNotAuthenticated marker =>
    "this command requires you to be authenticated! (`" ++ marker ++ "login`)"
  | .senderNotIndexed marker =>
    "you need to be indexed to run this command! (`" ++ marker ++ "index`)"
  | .mentionedNotIndexed marker =>
    "that user needs to be indexed to run this command! (`" ++ marker ++ "index`)"

inductive CommandError where
  | notFound (what : String)
  | unregistered (reason : UnregisteredReason)
  | validationFailed (argument constraint : String)
  | permissionDenied (reason : String)
  | reverseLookupFailed (username registerCommand : String)
  | logic (message : String) (footer : Option String)
  /-- Stops the run without a message. -/
  | silent (inner : CommandError)
  | unknown (message : String)
  deriving DecidableEq

namespace CommandError

def message : CommandError → String
  | .notFound what => what ++ " not found!"
  | .unregistered reason => reason.message
  | .validationFailed argument constraint => "invalid " ++ argument ++ ": " ++ constraint
  | .permissionDenied reason => reason
  | .reverseLookupFailed username _ =>
    "couldn't find anyone logged in with the username " ++ username
  | .logic message _ => message
  | .silent inner => inner.message
  | .unknown message => "internal error: " ++ message

/-- The hint under the message. -/
def footer : CommandError → Option String
  | .logic _ footer => footer
  | .unregistered (.senderNotLoggedIn _) =>
    some "Don't have one? You can create one at https://last.fm/join"
  | .reverseLookupFailed _ registerCommand =>
    some ("If that's you, you can log in with " ++ registerCommand)
  | .silent inner => inner.footer
  | _ => none

/-- The same error without a message; one that is silent stays as it is. -/
def silenced : CommandError → CommandError
  | .silent inner => .silent inner
  | e => .silent e

/-- The message is meant for the user. -/
def isClientFacing : CommandError → Bool
  | .unknown _ => false
  | _ => true

def isSilent : CommandError → Bool
  | .silent _ => true
  | _ => false

/-- The class of an error, silent or not. -/
inductive Kind where
  | notFound | unregistered | validationFailed | permissionDenied | reverseLookupFailed | logic | unknown
  deriving DecidableEq

def kind : CommandError → Kind
  | .notFound _ => .notFound
  | .unregistered _ => .unregistered
  | .validationFailed .. => .validationFailed
  | .permissionDenied _ => .permissionDenied
  | .reverseLookupFailed .. => .reverseLookupFailed
  | .logic .. => .logic
  | .silent inner => inner.kind
  | .unknown _ => .unknown

end CommandError

/-- A store or directory that did not answer. -/
inductive ServiceError where
  | unavailable (service message : String)
  | invalidResponse (service message : String)
  deriving DecidableEq

def ServiceError.message : ServiceError → String
  | .unavailable service message => service ++ " is unavailable: " ++ message
  | .invalidResponse service message => service ++ " returned an invalid response: " ++ message

/-- The chat did not take what it was given. -/
inductive OutputError where
  | sendFailed (channel message : String)
  | reactionFailed (messageId message : String)
  deriving DecidableEq

def OutputError.message : OutputError → String
  | .sendFailed channel message => "Failed to send to channel " ++ channel ++ ": " ++ message
  | .reactionFailed id message => "Failed to update reaction on " ++ id ++ ": " ++ message

def CommandError.ofService (e : ServiceError) : CommandError := .unknown e.message

/-- An answer of a service, whose failure stops the run. -/
def CommandError.orFail {α : Type} : Except ServiceError α → Except CommandError α
  | .ok a => .ok a
  | .error e => .error (.ofService e)

/-! ### What a chain of fallible steps comes to -/

section Chains

variable {ε α β : Type}

theorem bind_eq_ok {x : Except ε α} {k : α → Except ε β} {b : β} :
    x >>= k = .ok b ↔ ∃ a, x = .ok a ∧ k a = .ok b := by
  cases x <;> simp [bind, Except.bind]

theorem bind_eq_error {x : Except ε α} {k : α → Except ε β} {e : ε} :
    x >>= k = .error e ↔ x = .error e ∨ ∃ a, x = .ok a ∧ k a = .error e := by
  cases x <;> simp [bind, Except.bind]

theorem CommandError.orFail_eq_ok {x : Except ServiceError α} {a : α} : orFail x = .ok a ↔ x = .ok a := by
  cases x <;> simp [orFail]

theorem CommandError.orFail_eq_error {x : Except ServiceError α} {e : CommandError} :
    orFail x = .error e ↔ ∃ cause, x = .error cause ∧ e = .ofService cause := by
  cases x <;> simp [orFail, eq_comm]

end Chains

def CommandError.ofOutput (e : OutputError) : CommandError := .unknown e.message

/-- A set of commands that cannot be registered together. -/
inductive RegistryError where
  | emptySeed (name : String)
  | duplicateId (id first second : String)
  | duplicateName (name : String)
  deriving DecidableEq

def RegistryError.message : RegistryError → String
  | .emptySeed name => "Command '" ++ name ++ "' has an empty id seed"
  | .duplicateId id first second =>
    "Commands '" ++ first ++ "' and '" ++ second ++ "' share the id " ++ id
  | .duplicateName name => "Command name or alias '" ++ name ++ "' is registered twice"

inductive ConfigError where
  | fileNotFound (path : String)
  /-- A source that cannot be read as a configuration. -/
  | unreadable
  deriving DecidableEq

def ConfigError.message : ConfigError → String
  | .fileNotFound path => "Configuration file not found: " ++ path
  | .unreadable => "Configuration parse error"

/-- Failures outside a single run. -/
inductive BotError where
  | registry (cause : RegistryError)
  | output (cause : OutputError)
  | service (cause : ServiceError)
  | config (cause : ConfigError)
  deriving DecidableEq

def BotError.message : BotError → String
  | .registry e => "Registry error: " ++ e.message
  | .output e => "Output error: " ++ e.message
  | .service e => "Service error: " ++ e.message
  | .config e => "Configuration error: " ++ e.message

end ChatBot
