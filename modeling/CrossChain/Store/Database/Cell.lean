import CrossChain.Number.Integer
import CrossChain.Text.Blank

/-!
# Cells

The values of a database and the two types of columns. A column prefers values of its type: texts
that are integers become integers in an integer column, and integers become texts in a text column;
any other value is kept as it is.
-/

namespace CrossChain.Database

/-- A value of a row. -/
inductive Cell where
  | null
  | integer (n : Int)
  | text (s : String)
  deriving DecidableEq, Repr, Inhabited

/-- What a column prefers. -/
inductive ColumnType where
  | integer
  | text
  deriving DecidableEq, Repr

namespace Cell

/-- The integer that a whole text denotes, with blanks around it. -/
def integerOf? (s : String) : Option Int :=
  (parseSigned 64 (String.ofList (Text.stripWhile Text.isAsciiBlank s.toList))).toOption

def kept (type : ColumnType) : Cell → Cell
  | integer n =>
    match type with
    | .integer => integer n
    | .text => text (toString n)
  | text s =>
    match type with
    | .integer => ((integerOf? s).map integer).getD (text s)
    | .text => text s
  | null => null

/-- The digits at the start of a text, behind blanks and a sign, as a number. -/
def leadingInteger (s : String) : Int :=
  let digitsOf (cs : List Char) : Int :=
    ((Text.decNat? (cs.takeWhile Text.isDecDigit)).getD 0 : Nat)
  match s.toList.dropWhile Text.isAsciiBlank with
  | '-' :: r => -digitsOf r
  | '+' :: r => digitsOf r
  | r => digitsOf r

def asInteger : Cell → Int
  | null => 0
  | integer n => n
  | text s => leadingInteger s

/-- The low 32 bits of the value read as an integer, as a signed number. -/
def asInt32 (c : Cell) : Int := Bits.lowSigned 32 c.asInteger

/-- The value read as a text, none if it is null. -/
def asText? : Cell → Option String
  | null => none
  | integer n => some (toString n)
  | text s => some s

def asText (c : Cell) : String := c.asText?.getD ""

end Cell

end CrossChain.Database
