/-
  ChatBot.Argument.Index — where an argument reads: one item, the items from a place on,
  a range of items, or everything.

  Places are machine words. An index is read in two ways: inputs take the items it
  selects (`select`), mentions look at the positions it covers (`positions`).
-/
import ChatBot.Text.Blank

namespace ChatBot

inductive Index where
  | single (place : UInt64)
  | onward (start : UInt64)
  /-- Both ends included. -/
  | span (start stop : UInt64)
  | whole
  deriving DecidableEq

instance : Inhabited Index := ⟨.single 0⟩

namespace Index

/-- The selected items with `joiner` between them; none when nothing is selected. -/
def select (index : Index) (items : List String) (joiner : String) : Option String :=
  match index with
  | .single place => items[place.toNat]?
  | .onward start =>
    if start.toNat < items.length then some (joiner.intercalate (items.drop start.toNat)) else none
  | .span start stop =>
    if start.toNat < items.length && start ≤ stop then
      let last := min stop.toNat (items.length - 1)
      some (joiner.intercalate ((items.take (last + 1)).drop start.toNat))
    else none
  | .whole => if items.isEmpty then none else some (joiner.intercalate items)

/-- The positions covered among `count` items, from the first up to before the second.
    The place after a range's end is again a machine word, 0 after the largest. -/
def positions (index : Index) (count : Nat) : Nat × Nat :=
  match index with
  | .single place => if place.toNat < count then (place.toNat, place.toNat + 1) else (0, 0)
  | .onward start => if start.toNat < count then (start.toNat, count) else (0, 0)
  | .span start stop =>
    if start.toNat < count && start ≤ stop then (start.toNat, min (stop + 1).toNat count) else (0, 0)
  | .whole => (0, count)

/-- The covered positions in order. -/
def covered (index : Index) (count : Nat) : List Nat :=
  let (start, stop) := index.positions count
  List.range' start (stop - start)

end Index

end ChatBot
