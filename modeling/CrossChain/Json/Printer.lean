import CrossChain.Json.Basic

/-!
# Printing of JSON

Compact text: no blanks, fields in the order of the object, and floats by their shortest digits.
-/

namespace CrossChain.Json

/-- Floats are positional from `1e-5` up to below `1e16`. -/
def floatLayout : Binary64.Layout := ⟨-5, 15, 2⟩

def escapedChar (c : Char) : List Char :=
  if c = '"' then ['\\', '"']
  else if c = '\\' then ['\\', '\\']
  else if c = '\n' then ['\\', 'n']
  else if c = '\r' then ['\\', 'r']
  else if c = '\t' then ['\\', 't']
  else if c.toNat = 8 then ['\\', 'b']
  else if c.toNat = 12 then ['\\', 'f']
  else if c.toNat < 32 then ['\\', 'u', '0', '0', Text.hexDigit (c.toNat / 16),
    Text.hexDigit (c.toNat % 16)]
  else [c]

def textLiteral (s : String) : String :=
  String.ofList ('"' :: (s.toList.flatMap escapedChar ++ ['"']))

/-- A JSON number for a float; what is no number is `null`. -/
def floatLiteral (x : Float) : String :=
  if x.isFinite then floatLayout.writeFloat x else "null"

mutual

def compact : Json → String
  | null => "null"
  | bool b => if b then "true" else "false"
  | int n => toString n
  | float x => floatLiteral x
  | text s => textLiteral s
  | list items => "[" ++ compactItems items ++ "]"
  | object fields => "\x7b" ++ compactFields fields ++ "\x7d"

def compactItems : List Json → String
  | [] => ""
  | [v] => compact v
  | v :: rest => compact v ++ "," ++ compactItems rest

def compactFields : List (String × Json) → String
  | [] => ""
  | [(k, v)] => textLiteral k ++ ":" ++ compact v
  | (k, v) :: rest => textLiteral k ++ ":" ++ compact v ++ "," ++ compactFields rest

end

end CrossChain.Json
