import CrossChain.Text.Digits
import CrossChain.Text.LetterCase
import CrossChain.Text.QuotedTable

/-!
# Quoted text

How messages show a text that came from outside: in double quotes, with what cannot be seen on a
page written by name or number.
-/

namespace CrossChain.Text

/-- A character as it stands between quotes. -/
def quotedChar (c : Char) : List Char :=
  if c = '"' then ['\\', '"']
  else if c = '\\' then ['\\', '\\']
  else if c = '\n' then ['\\', 'n']
  else if c = '\t' then ['\\', 't']
  else if c = '\r' then ['\\', 'r']
  else if c.toNat = 0 then ['\\', '0']
  else if inRanges unprintableRanges c.toNat then
    ['\\', 'u', '\x7b'] ++ Nat.toDigits 16 c.toNat ++ ['\x7d']
  else [c]

/-- A text in double quotes. -/
def quoted (s : String) : String :=
  String.ofList ('"' :: (s.toList.flatMap quotedChar ++ ['"']))

end CrossChain.Text
