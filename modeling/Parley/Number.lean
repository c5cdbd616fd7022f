/-! # Numbers

Numerals are natural numbers in decimal digits, no greater than a bound. A finite number of double
precision is a sign, a significand below `2 ^ 53` and a power of two. A decimal is read as the
nearest such number, and a number is written with the fewest digits that read back as it.
-/

namespace Parley

namespace Numeral

inductive Fault where
  | empty
  | strange
  | tooLarge
  deriving DecidableEq, Repr

def Fault.message : Fault → String
  | .empty => "cannot parse integer from empty string"
  | .strange => "invalid digit found in string"
  | .tooLarge => "number too large to fit in target type"

/-- Reads digits after those of `n`. The first fault from the left counts. -/
def digits (bound n : Nat) : List Char → Except Fault Nat
  | [] => .ok n
  | c :: rest =>
    if c.isDigit then
      let m := n * 10 + (c.toNat - '0'.toNat)
      if m ≤ bound then digits bound m rest else .error .tooLarge
    else .error .strange

def read (bound : Nat) (text : String) : Except Fault Nat :=
  match text.toList with
  | [] => .error .empty
  | ['+'] => .error .strange
  | '+' :: rest => digits bound 0 rest
  | cs => digits bound 0 cs

def read? (bound : Nat) (text : String) : Option Nat :=
  (read bound text).toOption

end Numeral

def maxWord32 : Nat := Nat.pow 2 32 - 1

def maxWord64 : Nat := Nat.pow 2 64 - 1

/-- The number `± significand * 2 ^ exponent`. -/
structure Double where
  negative : Bool
  significand : Nat
  exponent : Int
  deriving DecidableEq, Repr

namespace Double

/-- The least exponent, that of the smallest numbers. -/
def minExponent : Int := -1074

def maxExponent : Int := 971

def scaled (base num den : Nat) (e : Int) : Nat × Nat :=
  if 0 ≤ e then (num * Nat.pow base e.toNat, den) else (num, den * Nat.pow base (-e).toNat)

/-- The natural number nearest to `num / den`; of two, the even one. -/
def roundDiv (num den : Nat) : Nat :=
  let q := num / den
  let r := num % den
  if 2 * r < den then q
  else if den < 2 * r then q + 1
  else q + q % 2

/-- The exponent at which `num / den` has a significand of 53 bits, or the least exponent. -/
def exponentFor (num den : Nat) : Int :=
  let e : Int := (num.log2 : Int) - (den.log2 : Int) - 52
  let (n, d) := scaled 2 num den (-e)
  max minExponent (if n / d < Nat.pow 2 52 then e - 1 else e)

/-- The number nearest to `± digits * 10 ^ scale`; none if it is beyond the greatest number. -/
def ofDecimal? (negative : Bool) (digits : Nat) (scale : Int) : Option Double :=
  if digits = 0 then some ⟨negative, 0, minExponent⟩
  else
    let (num, den) := scaled 10 digits 1 scale
    let e := exponentFor num den
    let (n, d) := scaled 2 num den (-e)
    let m := roundDiv n d
    let (m, e) := if m = Nat.pow 2 53 then (Nat.pow 2 52, e + 1) else (m, e)
    if maxExponent < e then none else some ⟨negative, m, e⟩

/-- Counts the steps until `num * 10 ^ k` reaches `den`. -/
def zerosBefore (den : Nat) : Nat → Nat → Nat
  | 0, _ => 0
  | fuel + 1, num => if den ≤ num then 0 else zerosBefore den fuel (num * 10) + 1

/-- The power of ten of the first digit of `num / den`. -/
def firstDigit (num den : Nat) : Int :=
  if den ≤ num then ((Nat.toDigits 10 (num / den)).length : Int) - 1
  else -(zerosBefore den 400 num : Int)

/-- Whether `x / y ≤ u / v`, or `<` if the ends do not count. -/
def upTo (inclusive : Bool) (x y u v : Nat) : Bool :=
  if inclusive then x * v ≤ u * y else x * v < u * y

/-- Whether the decimal `d * 10 ^ k` reads back as a positive number: it lies between the points
halfway to the neighbours, which count if the significand is even. -/
def readsBack (x : Double) (d : Nat) (k : Int) : Bool :=
  let inclusive := x.significand % 2 == 0
  let narrow := x.significand == Nat.pow 2 52 && minExponent < x.exponent
  let (num, den) := scaled 10 d 1 k
  let (lo, loDen) := scaled 2 (4 * x.significand - (if narrow then 1 else 2)) 4 x.exponent
  let (hi, hiDen) := scaled 2 (4 * x.significand + 2) 4 x.exponent
  upTo inclusive lo loDen num den && upTo inclusive num den hi hiDen

/-- The decimal with `n + 1` digits that reads back as a positive number, if there is one. Of two
the nearer is taken, and the greater if neither is. -/
def decimal? (x : Double) (n : Nat) : Option (Nat × Int) :=
  let (num, den) := scaled 2 x.significand 1 x.exponent
  let k := firstDigit num den - n
  let (p, q) := scaled 10 num den (-k)
  let below := p / q
  let above := below + 1
  match x.readsBack below k, x.readsBack above k with
  | true, true => if 2 * (p % q) < q then some (below, k) else some (above, k)
  | true, false => some (below, k)
  | false, true => some (above, k)
  | false, false => none

def withoutZeros : Nat → Nat → Int → Nat × Int
  | 0, d, k => (d, k)
  | fuel + 1, d, k => if d % 10 = 0 then withoutZeros fuel (d / 10) (k + 1) else (d, k)

/-- The shortest decimal that reads back as a positive number. Seventeen digits always do. -/
def shortest (x : Double) : Nat × Int :=
  let (d, k) := ((List.range 17).findSome? x.decimal?).getD (0, 0)
  withoutZeros 17 d k

def positional (d : Nat) (k : Int) : String :=
  let ds := Nat.toDigits 10 d
  let places := (-k).toNat
  if 0 ≤ k then String.ofList (ds ++ List.replicate k.toNat '0')
  else if places < ds.length then
    String.ofList (ds.take (ds.length - places) ++ '.' :: ds.drop (ds.length - places))
  else String.ofList ('0' :: '.' :: (List.replicate (places - ds.length) '0' ++ ds))

/-- The text of a number: never an exponent, no point in a whole number, zero with its sign. -/
def text (x : Double) : String :=
  let magnitude :=
    if x.significand = 0 then "0"
    else
      let (d, k) := x.shortest
      positional d k
  if x.negative then "-" ++ magnitude else magnitude

def digits? (cs : List Char) : Option Nat :=
  if cs.isEmpty || !cs.all Char.isDigit then none
  else some (cs.foldl (fun n c => n * 10 + (c.toNat - '0'.toNat)) 0)

def isExponentMark (c : Char) : Bool :=
  c == 'e' || c == 'E'

/-- The greatest exponent that counts. A number with a greater one is too large, or it is zero. -/
def exponentLimit : Nat := 100000

def exponent? : List Char → Option Int
  | [] => some 0
  | _ :: '-' :: ds => (digits? ds).map fun e => -(min e exponentLimit : Nat)
  | _ :: '+' :: ds => (digits? ds).map fun e => (min e exponentLimit : Nat)
  | _ :: ds => (digits? ds).map fun e => (min e exponentLimit : Nat)

/-- Reads a number; none if it is beyond the greatest one. -/
def ofChars? (word : List Char) : Option Double := do
  let (negative, word) :=
    match word with
    | '-' :: rest => (true, rest)
    | _ => (false, word)
  let mantissa := word.takeWhile (!isExponentMark ·)
  let whole := mantissa.takeWhile (· != '.')
  let places := (mantissa.dropWhile (· != '.')).drop 1
  let digits ← digits? (whole ++ places)
  let exponent ← exponent? (word.dropWhile (!isExponentMark ·))
  ofDecimal? negative digits (exponent - places.length)

end Double

end Parley
