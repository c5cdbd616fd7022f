import Parley.Number
import Parley.Yaml.Node

/-! # The meaning of scalars

What a scalar says where a text, a truth value, a number or one of some names is asked for. Any
scalar is a text; the others must be written plain, or as a literal block with the tag for it.
-/

namespace Parley.Yaml.Scalar

def nullTag : String := "tag:yaml.org,2002:null"

def boolTag : String := "tag:yaml.org,2002:bool"

def intTag : String := "tag:yaml.org,2002:int"

def isNullWord (text : String) : Bool :=
  ["null", "Null", "NULL", "~"].contains text

/-- Whether a scalar stands for a missing value. With the tag for it, it has to. -/
def isMissing? (s : Scalar) : Option Bool :=
  if s.style = .plain then
    match s.tag with
    | none => some (s.text.isEmpty || isNullWord s.text)
    | some tag =>
      if tag = nullTag then (if isNullWord s.text then some true else none) else some false
  else some false

def isBare (s : Scalar) (tag : String) : Bool :=
  s.style == .plain || (s.style == .literal && s.tag == some tag)

def bool? (s : Scalar) : Option Bool :=
  if s.isBare boolTag then
    if ["true", "True", "TRUE"].contains s.text then some true
    else if ["false", "False", "FALSE"].contains s.text then some false
    else none
  else none

def digit? (radix : Nat) (c : Char) : Option Nat :=
  (Json.hexDigit? c).filter (· < radix)

def digits? (radix bound : Nat) (cs : List Char) : Option Nat :=
  if cs.isEmpty then none
  else do
    let n ← cs.foldlM (fun n c => (digit? radix c).map (n * radix + ·)) 0
    if n ≤ bound then some n else none

/-- The number that a word spells: with a base in front, or decimal and without needless zeros. A
plus sign may come first. -/
def number? (bound : Nat) (word : List Char) : Option Nat :=
  let unsigned := if word.head? = some '+' then word.drop 1 else word
  match unsigned with
  | '0' :: 'x' :: ds => digits? 16 bound ds
  | '0' :: 'o' :: ds => digits? 8 bound ds
  | '0' :: 'b' :: ds => digits? 2 bound ds
  | '0' :: _ :: _ => none
  | ds => digits? 10 bound ds

def nat? (bound : Nat) (s : Scalar) : Option Nat :=
  if s.isBare intTag then number? bound s.text.toList else none

/-- One of some names: as the text of a scalar, or as a tag of its own on a missing value. -/
def oneOf? {α : Type} (names : List (String × α)) (s : Scalar) : Option α :=
  let named (name : String) : Option α := (names.find? (·.1 == name)).map (·.2)
  match s.tag.map String.toList with
  | some ('!' :: name) =>
    if s.style = .plain ∧ (s.text.isEmpty ∨ isNullWord s.text) then named (String.ofList name)
    else none
  | _ => named s.text

end Parley.Yaml.Scalar
