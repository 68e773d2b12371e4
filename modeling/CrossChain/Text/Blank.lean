/-!
# White space

The characters with the Unicode property `White_Space`, and trimming by it. Every text that a
table row, a reply or a command line brings in is trimmed with `trim`.
-/

namespace CrossChain.Text

/-- The Unicode property `White_Space`. -/
def isBlank (c : Char) : Bool :=
  let n := c.toNat
  (9 ≤ n && n ≤ 13) || n == 0x20 || n == 0x85 || n == 0xA0 || n == 0x1680 ||
    (0x2000 ≤ n && n ≤ 0x200A) || n == 0x2028 || n == 0x2029 || n == 0x202F || n == 0x205F ||
    n == 0x3000

def isAsciiBlank (c : Char) : Bool := (9 ≤ c.toNat && c.toNat ≤ 13) || c == ' '

def dropEndWhile (p : Char → Bool) (cs : List Char) : List Char :=
  (cs.reverse.dropWhile p).reverse

/-- Drops what `p` accepts from both ends. -/
def stripWhile (p : Char → Bool) (cs : List Char) : List Char :=
  dropEndWhile p (cs.dropWhile p)

def trim (s : String) : String :=
  String.ofList (stripWhile isBlank s.toList)

def trimEnd (s : String) : String :=
  String.ofList (dropEndWhile isBlank s.toList)

def isBlankText (s : String) : Bool :=
  s.toList.all isBlank

def nonEmpty? (s : String) : Option String :=
  if s.isEmpty then none else some s

end CrossChain.Text
