/-
  ChatBot.Text.Split — the pieces of a text between the places of a delimiter.
-/

namespace ChatBot.Text

/-- The pieces of what is left of a text. The next `skip` characters are part of a
    delimiter, `piece` is the piece that was begun (its last character first). -/
def splitAt (delimiter : List Char) : (skip : Nat) → (piece : List Char) → List Char → List (List Char)
  | _, piece, [] => [piece.reverse]
  | skip + 1, piece, _ :: cs => splitAt delimiter skip piece cs
  | 0, piece, c :: cs =>
    if delimiter.isPrefixOf (c :: cs) then piece.reverse :: splitAt delimiter (delimiter.length - 1) [] cs
    else splitAt delimiter 0 (c :: piece) cs

/-- The pieces between the places of a non-empty delimiter, found from the left. -/
def splitOn (delimiter cs : List Char) : List (List Char) := splitAt delimiter 0 [] cs

end ChatBot.Text
