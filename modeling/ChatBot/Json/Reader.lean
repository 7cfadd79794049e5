/-
  ChatBot.Json.Reader — reading a JSON text.

  Tokens are taken one by one (`Reader.step`). The reader keeps the lists and records that
  are open, and what may come next; a text is read when exactly one value has been
  completed at its end.
-/
import ChatBot.Json.Token

namespace ChatBot.Json

/-- A list or record that is open, its contents last one first. -/
inductive Frame where
  | list (items : List Json)
  | record (members : List (Option String × Json))
  /-- A record whose last name waits for its value. -/
  | member (members : List (Option String × Json)) (name : Option String)

/-- What may come next. -/
inductive Next where
  | value
  /-- A value or the end of the list. -/
  | firstItem
  | name
  /-- A name or the end of the record. -/
  | firstName
  | colon
  /-- A comma or the end of the innermost frame. -/
  | separator
  /-- Nothing. -/
  | finished (value : Json)

structure Reader where
  /-- Open frames, the innermost first. -/
  frames : List Frame
  next : Next

namespace Reader

/-- A value is complete. -/
def complete (frames : List Frame) (value : Json) : Option Reader :=
  match frames with
  | [] => some ⟨[], .finished value⟩
  | .list items :: outer => some ⟨.list (value :: items) :: outer, .separator⟩
  | .member members name :: outer => some ⟨.record ((name, value) :: members) :: outer, .separator⟩
  | .record _ :: _ => none

/-- The innermost frame ends. -/
def close (frames : List Frame) (token : Token) : Option Reader :=
  match frames, token with
  | .list items :: outer, .closeList => complete outer (.list items.reverse)
  | .record members :: outer, .closeRecord => complete outer (.record members.reverse)
  | _, _ => none

/-- A value begins. -/
def startValue (frames : List Frame) (token : Token) : Option Reader :=
  match token with
  | .openList => some ⟨.list [] :: frames, .firstItem⟩
  | .openRecord => some ⟨.record [] :: frames, .firstName⟩
  | .string text => complete frames (.string text)
  | .literal value => complete frames value
  | _ => none

/-- A member begins. -/
def startMember (frames : List Frame) (token : Token) : Option Reader :=
  match frames, token with
  | .record members :: outer, .string name => some ⟨.member members name :: outer, .colon⟩
  | _, _ => none

def step (r : Reader) (token : Token) : Option Reader :=
  match r.next, token with
  | .value, t => startValue r.frames t
  | .firstItem, .closeList => close r.frames .closeList
  | .firstItem, t => startValue r.frames t
  | .name, t => startMember r.frames t
  | .firstName, .closeRecord => close r.frames .closeRecord
  | .firstName, t => startMember r.frames t
  | .colon, .colon => some { r with next := .value }
  | .colon, _ => none
  | .separator, .comma => match r.frames with
    | .list _ :: _ => some { r with next := .value }
    | _ => some { r with next := .name }
  | .separator, t => close r.frames t
  | .finished _, _ => none

end Reader

/-- The value that a text writes. -/
def parse? (text : String) : Option Json := do
  let tokens ← tokens? text
  let r ← tokens.foldlM Reader.step ⟨[], .value⟩
  match r.next with
  | .finished value => some value
  | _ => none

end ChatBot.Json
