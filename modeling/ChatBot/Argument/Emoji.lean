/-
  ChatBot.Argument.Emoji — the emoji among the words of a text: custom ones such as
  `<:wave:123>` and words of pictographs.
-/
import ChatBot.Text.Pattern

namespace ChatBot.Emoji

open ChatBot.Text

/-- `<:name:id>`, or `<a:name:id>` for an animated one. -/
def customPattern : Pattern :=
  .seqAll [.start, .text "<", .optional (.text "a"), .text ":", .atLeastOne isWord, .text ":",
    .atLeastOne isDecimal, .text ">", .stop]

/-- A character outside ASCII that is not alphanumeric, a joiner or a variation selector. -/
def isPictographic (c : Char) : Bool :=
  (!isAlphanumeric c && 0x80 ≤ c.toNat) || c.toNat == 0x200d || c.toNat == 0xfe0f

def isEmoji (word : List Char) : Bool :=
  customPattern.isMatch word || (!word.isEmpty && word.all isPictographic)

/-- Every emoji of a text, in order. -/
def listIn (text : String) : List String :=
  ((words text.toList).filter isEmoji).map String.ofList

end ChatBot.Emoji
