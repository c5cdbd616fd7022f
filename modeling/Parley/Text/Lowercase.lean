import Parley.Text.CaseTables

/-! # Small letters

The full Unicode mapping of a text to small letters. Two characters need more than the table: a
capital I with a dot becomes two characters, and a capital sigma that ends a word becomes the
final sigma.
-/

namespace Parley.Text

/-- The small form of a character, where it is a single one. -/
def smallOf (c : Char) : Char :=
  let n := c.toNat
  if n < 0x80 then
    if 0x41 ≤ n && n ≤ 0x5A then Char.ofNat (n + 0x20) else c
  else
    match capitalRuns.find? fun r => r.first ≤ n && n ≤ r.last && (n - r.first) % r.step == 0 with
    | some r => Char.ofNat (n + r.shift).toNat
    | none => c

/-- The property Cased: capital, small and title letters. -/
def isCased (c : Char) : Bool :=
  let n := c.toNat
  if n < 0x80 then (0x41 ≤ n && n ≤ 0x5A) || (0x61 ≤ n && n ≤ 0x7A)
  else casedRanges.any fun r => r.1 ≤ n && n ≤ r.2

/-- The property Case_Ignorable: characters that do not end a word for the sigma rule. -/
def isCaseIgnorable (c : Char) : Bool :=
  let n := c.toNat
  if n < 0x80 then n == 0x27 || n == 0x2E || n == 0x3A || n == 0x5E || n == 0x60
  else caseIgnorableRanges.any fun r => r.1 ≤ n && n ≤ r.2

def nextIsCased (cs : List Char) : Bool :=
  match cs.dropWhile isCaseIgnorable with
  | [] => false
  | c :: _ => isCased c

/-- The small letters of a text, given the characters before it, nearest first. -/
def smallAfter (before : List Char) : List Char → List Char
  | [] => []
  | c :: rest =>
    let here : List Char :=
      if c == 'Σ' then
        if nextIsCased before && !nextIsCased rest then ['ς'] else ['σ']
      else if c == 'İ' then ['i', '\u0307']
      else [smallOf c]
    here ++ smallAfter (c :: before) rest

def lowercase (cs : List Char) : List Char :=
  smallAfter [] cs

/-- A small ASCII letter for a capital one; every other character stays. -/
def asciiSmall (c : Char) : Char :=
  if 0x41 ≤ c.toNat && c.toNat ≤ 0x5A then Char.ofNat (c.toNat + 0x20) else c

def eqIgnoringAsciiCase (s t : List Char) : Bool :=
  s.map asciiSmall == t.map asciiSmall

end Parley.Text
