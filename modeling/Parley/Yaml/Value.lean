import Parley.Number
import Parley.Yaml.Meaning

/-! # Values of YAML

What a document says as a whole: every scalar has the meaning that its form gives it, and every
alias is replaced by what it stands for. Documents that would grow without measure by that have no
value, and neither have mappings in which a key stands twice.
-/

namespace Parley.Yaml

inductive Value where
  | null
  | bool (b : Bool)
  | int (n : Int)
  | float (spelling : String)
  | text (s : String)
  | sequence (items : List Value)
  | mapping (entries : List (Value × Value))
  | tagged (tag : String) (value : Value)
  deriving Inhabited, Repr

namespace Value

mutual

def same : Value → Value → Bool
  | .null, .null => true
  | .bool a, .bool b => a == b
  | .int a, .int b => a == b
  | .float a, .float b => a == b
  | .text a, .text b => a == b
  | .sequence as, .sequence bs => sameItems as bs
  | .mapping as, .mapping bs => sameEntries as bs
  | .tagged s a, .tagged t b => s == t && same a b
  | _, _ => false

def sameItems : List Value → List Value → Bool
  | [], [] => true
  | a :: as, b :: bs => same a b && sameItems as bs
  | _, _ => false

def sameEntries : List (Value × Value) → List (Value × Value) → Bool
  | [], [] => true
  | (a, x) :: as, (b, y) :: bs => same a b && same x y && sameEntries as bs
  | _, _ => false

end

def negative? (word : List Char) : Option Nat :=
  match word with
  | '-' :: '+' :: _ => none
  | '-' :: ds => Scalar.number? (Nat.pow 2 127) ds
  | _ => none

def float? (word : List Char) : Option String :=
  let unsigned := if word.head? = some '+' then word.drop 1 else word
  let isOne (spellings : List String) (cs : List Char) : Bool := spellings.contains (String.ofList cs)
  let infinity := [".inf", ".Inf", ".INF"]
  if isOne infinity unsigned then some "inf"
  else if word.head? = some '-' && isOne infinity (word.drop 1) then some "-inf"
  else if isOne [".nan", ".NaN", ".NAN"] word then some "nan"
  else if word.head? = some '+' && unsigned.head? = some '-' then none
  else
    (Double.ofChars? unsigned).map fun d => if d.significand = 0 then "0" else d.text

/-- Whether a word is digits with a needless zero in front. -/
def isPadded (word : List Char) : Bool :=
  let ds := if word.head? = some '-' ∨ word.head? = some '+' then word.drop 1 else word
  1 < ds.length && ds.head? = some '0' && ds.all Char.isDigit

/-- The value of a plain scalar. Whole numbers that need more than 64 bits have none. -/
def ofPlain? (s : Scalar) : Option Value :=
  let word := s.text.toList
  if s.text.isEmpty || Scalar.isNullWord s.text then some .null
  else
    match s.bool?, Scalar.number? (Nat.pow 2 128) word, negative? word with
    | some b, _, _ => some (.bool b)
    | none, some n, _ => if n ≤ maxWord64 then some (.int n) else none
    | none, none, some n => if n ≤ Nat.pow 2 63 then some (.int (-n)) else none
    | none, none, none =>
      match if isPadded word then none else float? word with
      | some spelling => some (.float spelling)
      | none => some (.text s.text)

def floatTag : String := "tag:yaml.org,2002:float"

/-- The value of a scalar, whose tag may say what it has to be. -/
def ofScalar? (s : Scalar) : Option Value :=
  let bare : Scalar := { s with style := .plain, tag := none }
  match s.tag with
  | none => if s.style = .plain then ofPlain? s else some (.text s.text)
  | some tag =>
    if tag.toList.head? = some '!' then
      (if s.style = .plain then ofPlain? { s with tag := none } else some (.text s.text)).map
        (.tagged tag)
    else if tag = Scalar.nullTag then
      if Scalar.isNullWord s.text then some .null else none
    else if tag = Scalar.boolTag then bare.bool?.map .bool
    else if tag = Scalar.intTag then
      match ofPlain? bare with
      | some (.int n) => some (.int n)
      | _ => none
    else if tag = floatTag then (float? s.text.toList).map .float
    else some (.text s.text)

def withTag (tag : Option String) (v : Value) : Value :=
  match tag with
  | some t => if t.toList.head? = some '!' then .tagged t v else v
  | none => v

def addEntry? (entries : List (Value × Value)) (key value : Value) : Option (List (Value × Value)) :=
  if entries.any (same key ·.1) then none else some (entries ++ [(key, value)])

/-- The value of a node, nested at most as deep as the first number says less one, with at most as
many aliases as the second one; the aliases left are given back. -/
def ofNode? (root : Node) : Nat → Nat → Node → Option (Value × Nat)
  | 0, _, _ => none
  | depth + 1, aliases, node => do
    let aliases ←
      match node, aliases with
      | .alias _, 0 => none
      | .alias _, n + 1 => some n
      | _, n => some n
    match ← root.resolve node with
    | .alias _ => none
    | .scalar _ s => return (← ofScalar? s, aliases)
    | .sequence _ tag items =>
      if depth = 0 then none
      else do
        let (values, aliases) ← items.foldlM
          (fun (values, aliases) item => do
            let (v, aliases) ← ofNode? root depth aliases item
            return (values ++ [v], aliases))
          ([], aliases)
        return (withTag tag (.sequence values), aliases)
    | .mapping _ tag entries =>
      if depth = 0 then none
      else do
        let (entries, aliases) ← entries.foldlM
          (fun (entries, aliases) entry => do
            let (key, aliases) ← ofNode? root depth aliases entry.1
            let (value, aliases) ← ofNode? root depth aliases entry.2
            return (← addEntry? entries key value, aliases))
          ([], aliases)
        return (withTag tag (.mapping entries), aliases)

def depthLimit : Nat := 128

mutual

/-- The number of marks in which a node is written: one for a scalar or an alias and two around
everything else. -/
def marks : Node → Nat
  | .scalar .. => 1
  | .alias _ => 1
  | .sequence _ _ items => marksOfItems items + 2
  | .mapping _ _ entries => marksOfEntries entries + 2

def marksOfItems : List Node → Nat
  | [] => 0
  | node :: rest => marks node + marksOfItems rest

def marksOfEntries : List (Node × Node) → Nat
  | [] => 0
  | (key, value) :: rest => marks key + marks value + marksOfEntries rest

end

/-- The value of a text. A text without a document says nothing. -/
def ofText? (text : String) : Option Value := do
  match ← Node.document? text.toList with
  | none => return .null
  | some root => return (← ofNode? root (depthLimit + 1) (100 * marks root) root).1

end Value

end Parley.Yaml
