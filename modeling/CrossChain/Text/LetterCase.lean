import CrossChain.Text.LetterCaseTable

/-!
# Letter case

Lower-casing by the full Unicode mapping. Keys of chains, tokens and addresses are lower-cased
with `lower`. The only character with a two-character form is the dotted capital I, and the only
one whose form depends on its neighbours is the capital sigma, which has a form of its own at the
end of a word.
-/

namespace CrossChain.Text

def inRanges (rs : List (Nat × Nat)) (n : Nat) : Bool :=
  rs.any fun (lo, hi) => lo ≤ n && n ≤ hi

def CaseRun.contains (r : CaseRun) (n : Nat) : Bool :=
  r.first ≤ n && n ≤ r.last && (n - r.first) % r.step == 0

def lowerAscii (c : Char) : Char :=
  if 'A' ≤ c ∧ c ≤ 'Z' then Char.ofNat (c.toNat + 32) else c

def upperAscii (c : Char) : Char :=
  if 'a' ≤ c ∧ c ≤ 'z' then Char.ofNat (c.toNat - 32) else c

/-- The lower-case form of a character, whatever its neighbours. -/
def lowerChar (c : Char) : List Char :=
  if c.toNat < 128 then [lowerAscii c]
  else if c = 'İ' then ['i', Char.ofNat 0x307]
  else
    match lowerRuns.find? (·.contains c.toNat) with
    | some r => [Char.ofNat (c.toNat + r.shift).toNat]
    | none => [c]

def isCased (c : Char) : Bool := inRanges casedRanges c.toNat

def isCaseIgnorable (c : Char) : Bool := inRanges caseIgnorableRanges c.toNat

/-- After the characters that case ignores comes a letter with case. -/
def meetsCased (cs : List Char) : Bool :=
  match cs.dropWhile isCaseIgnorable with
  | c :: _ => isCased c
  | [] => false

/-- Lower-cases the rest of a text; `before` is what stood in front of it, nearest first. -/
def lowerFrom (before : List Char) : List Char → List Char
  | [] => []
  | c :: rest =>
    let image :=
      if c = 'Σ' then (if meetsCased before && !meetsCased rest then ['ς'] else ['σ'])
      else lowerChar c
    image ++ lowerFrom (c :: before) rest

def lower (s : String) : String :=
  String.ofList (lowerFrom [] s.toList)

def eqIgnoreAsciiCase (s t : String) : Bool :=
  s.toList.map lowerAscii == t.toList.map lowerAscii

end CrossChain.Text
