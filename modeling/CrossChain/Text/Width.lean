import CrossChain.Text.LetterCase
import CrossChain.Text.WidthTable

/-!
# Columns of a terminal

How many columns a text takes when it is written on a terminal.
-/

namespace CrossChain.Text

def charWidth (c : Char) : Nat :=
  if inRanges zeroWidthRanges c.toNat then 0
  else if inRanges wideRanges c.toNat then 2
  else 1

def width : List Char → Nat
  | [] => 0
  | c :: rest => charWidth c + width rest

/-- Fills a line up with blanks to a number of columns. -/
def fillTo (columns : Nat) (cs : List Char) : List Char :=
  cs ++ List.replicate (columns - width cs) ' '

end CrossChain.Text
