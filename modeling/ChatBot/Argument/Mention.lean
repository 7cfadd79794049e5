/-
  ChatBot.Argument.Mention — words that refer to somebody: `<@123>`, `lfm:name`,
  `id:123`, `u:nickname`, or a bare name.
-/
import ChatBot.Argument.Index
import ChatBot.Text.Ascii
import ChatBot.Text.CaseMap

namespace ChatBot

open Text

/-- Whom a mention refers to. -/
inductive MentionTarget where
  /-- A reference made by the platform. -/
  | platform (id : String)
  /-- An id typed by hand. -/
  | platformId (id : String)
  /-- A user name or nickname to look up in the server. -/
  | platformUsername (name : String)
  /-- A user name on the remote service. -/
  | remoteUsername (name : String)
  deriving DecidableEq

/-- The platform id, when the target names one. -/
def MentionTarget.platformId? : MentionTarget → Option String
  | .platform id | .platformId id => some id
  | _ => none

/-! ## Reading one word -/

/-- The id in `<@id>` or `<@!id>`. -/
def platformMention? (word : String) : Option String :=
  match word.toList with
  | '<' :: '@' :: rest =>
    match rest.reverse with
    | '>' :: reversed =>
      let inner := reversed.reverse
      let id := match inner with
        | '!' :: ds => ds
        | ds => ds
      if !id.isEmpty && id.all isAsciiDigit then some (String.ofList id) else none
    | _ => none
  | _ => none

/-- The non-empty rest of a word after a tag, up to the case of ASCII letters. -/
def afterTag? (tag word : String) : Option (List Char) :=
  match dropAlike tag.toList word.toList with
  | some [] => none
  | r => r

/-- A way to read a mention that is not a platform reference. -/
structure MentionReader where
  read : String → Option MentionTarget
  /-- The word is used up and no input sees it. -/
  consumes : Bool

namespace MentionReader

/-- `lfm:name`. -/
def remoteUsername : MentionReader :=
  ⟨fun w => (afterTag? "lfm:" w).map fun r => .remoteUsername (String.ofList r), true⟩

/-- `id:123`. -/
def platformId : MentionReader :=
  ⟨fun w => match afterTag? "id:" w with
    | some r => if r.all isAsciiDigit then some (.platformId (String.ofList r)) else none
    | none => none, true⟩

/-- `u:nickname`, in lowercase. -/
def platformUsername : MentionReader :=
  ⟨fun w => (afterTag? "u:" w).map fun r => .platformUsername (lower (String.ofList r)), true⟩

/-- A word of ASCII letters, digits, `_` and `-`. It stays an input, too. -/
def bareUsername : MentionReader :=
  ⟨fun w =>
    let cs := w.toList
    if !cs.isEmpty && cs.all (fun c => isAsciiAlphanumeric c || c == '_' || c == '-') then
      some (.remoteUsername w)
    else none, false⟩

end MentionReader

/-! ## Mention slots -/

structure MentionSpec where
  index : Index
  /-- Platform references are accepted. -/
  platform : Bool
  reader : Option MentionReader

namespace MentionSpec

/-- The target of a word, and whether the word is used up. -/
def read (spec : MentionSpec) (word : String) : Option (MentionTarget × Bool) :=
  match (if spec.platform then platformMention? word else none) with
  | some id => some (.platform id, true)
  | none => match spec.reader with
    | some r => (r.read word).map fun t => (t, r.consumes)
    | none => none

/-- The mentions that most commands accept, anywhere among the arguments. -/
def standard : List (String × MentionSpec) := [
  ("user", ⟨.onward 0, true, none⟩),
  ("lfmUser", ⟨.onward 0, false, some .remoteUsername⟩),
  ("userID", ⟨.onward 0, false, some .platformId⟩),
  ("discordUsername", ⟨.onward 0, false, some .platformUsername⟩)]

end MentionSpec

end ChatBot
