/-
  ChatBot.Text.EditDistance — how many characters have to be inserted, removed or
  replaced to turn one text into another.
-/

namespace ChatBot.Text

/-- The next row of distances. `above` is the rest of the previous row behind its entry
    `corner`, `left` the entry just made. -/
def nextRow (c : Char) (corner left : Nat) : (above : List Nat) → (columns : List Char) → List Nat
  | up :: above, d :: columns =>
    let entry := min (min (up + 1) (left + 1)) (corner + if c = d then 0 else 1)
    entry :: nextRow c up entry above columns
  | _, _ => []

/-- The row of distances after one more character. -/
def stepRow (columns : List Char) (row : List Nat) (c : Char) : List Nat :=
  match row with
  | [] => []
  | corner :: above => (corner + 1) :: nextRow c corner (corner + 1) above columns

/-- The number of single-character edits between two texts. -/
def editDistance (a b : List Char) : Nat :=
  (a.foldl (stepRow b) (List.range (b.length + 1))).getLastD 0

end ChatBot.Text
