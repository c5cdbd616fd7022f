import Parley.Text.Lowercase

/-! # Session identifiers

An identifier is 32 hexadecimal digits. It is written in five groups and read in four forms: with
or without hyphens, in braces, or as a URN. Case does not count in any of them.
-/

namespace Parley

structure SessionId where
  digits : List (Fin 16)
  length_eq : digits.length = 32
  deriving DecidableEq

namespace SessionId

def digitChar (d : Fin 16) : Char :=
  if d.val < 10 then Char.ofNat ('0'.toNat + d.val) else Char.ofNat ('a'.toNat + (d.val - 10))

def digit? (c : Char) : Option (Fin 16) :=
  let n := c.toNat
  if 0x30 ≤ n ∧ n ≤ 0x39 then some (Fin.ofNat 16 (n - 0x30))
  else if 0x61 ≤ n ∧ n ≤ 0x66 then some (Fin.ofNat 16 (n - 0x61 + 10))
  else if 0x41 ≤ n ∧ n ≤ 0x46 then some (Fin.ofNat 16 (n - 0x41 + 10))
  else none

def ofDigits? (cs : List Char) : Option SessionId :=
  match cs.mapM digit? with
  | some ds => if h : ds.length = 32 then some ⟨ds, h⟩ else none
  | none => none

/-- Puts hyphens between groups of 8, 4, 4, 4 and 12 digits. -/
def group (cs : List Char) : List Char :=
  cs.take 8 ++ '-' :: ((cs.drop 8).take 4 ++ '-' :: ((cs.drop 12).take 4 ++
    '-' :: ((cs.drop 16).take 4 ++ '-' :: cs.drop 20)))

def ungroup? (cs : List Char) : Option (List Char) :=
  let ds := cs.take 8 ++ ((cs.drop 9).take 4 ++ ((cs.drop 14).take 4 ++
    ((cs.drop 19).take 4 ++ cs.drop 24)))
  if group ds = cs then some ds else none

def ofGrouped? (cs : List Char) : Option SessionId :=
  (ungroup? cs).bind ofDigits?

def toChars (id : SessionId) : List Char :=
  group (id.digits.map digitChar)

def text (id : SessionId) : String :=
  String.ofList id.toChars

/-- The first eight digits, enough to tell sessions apart on a screen. -/
def short (id : SessionId) : String :=
  String.ofList ((id.digits.take 8).map digitChar)

def namespaceOfUrn : List Char :=
  "urn:uuid:".toList

def parse? (text : String) : Option SessionId :=
  let cs := text.toList
  let (front, rest) := cs.splitAt namespaceOfUrn.length
  if cs.length = 32 then ofDigits? cs
  else if Text.eqIgnoringAsciiCase front namespaceOfUrn then ofGrouped? rest
  else
    match cs with
    | '{' :: rest => if rest.getLast? = some '}' then ofGrouped? rest.dropLast else none
    | _ => ofGrouped? cs

def lastDigits : Nat → Nat → List (Fin 16)
  | 0, _ => []
  | n + 1, k => lastDigits n (k / 16) ++ [Fin.ofNat 16 k]

theorem length_lastDigits (n k : Nat) : (lastDigits n k).length = n := by
  induction n generalizing k with
  | zero => rfl
  | succ n ih => simp [lastDigits, ih]

/-- The identifier of the session with a serial number, which stands in its first and its last
group. -/
def ofSerial (k : Nat) : SessionId where
  digits := lastDigits 8 k ++ (lastDigits 4 0 ++ (lastDigits 4 0x4000 ++ (lastDigits 4 0x8000 ++
    lastDigits 12 k)))
  length_eq := by simp [length_lastDigits]

end SessionId

instance : Inhabited SessionId := ⟨.ofSerial 0⟩

end Parley
