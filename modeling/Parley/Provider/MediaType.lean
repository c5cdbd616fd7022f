import Parley.Text.Lowercase

/-! # Media types

What a response says about its body: a type and a subtype, and parameters such as the encoding of
a text.
-/

namespace Parley.Provider

structure MediaType where
  type : String
  subtype : String
  parameters : List (String × String) := []
  deriving DecidableEq, Repr

namespace MediaType

def isNameChar (c : Char) : Bool :=
  c.isAlphanum || "!#$%&'*+-.^_\x60|~".toList.contains c

def isQuotedChar (c : Char) : Bool :=
  0x20 ≤ c.toNat && c.toNat ≠ 0x7F

def name (cs : List Char) : List Char × List Char :=
  (cs.takeWhile isNameChar, cs.dropWhile isNameChar)

/-- Reads a value between quotation marks after the first of them, and the blanks after it. There
is at least one character in it, whatever that is. -/
def quoted? : List Char → Option (String × List Char)
  | [] => none
  | first :: cs =>
    let value := first :: cs.takeWhile fun c => isQuotedChar c && c != '"'
    match cs.dropWhile fun c => isQuotedChar c && c != '"' with
    | '"' :: rest =>
      if isQuotedChar first then some (String.ofList value, rest.dropWhile (· == ' ')) else none
    | _ => none

def value? : List Char → Option (String × List Char)
  | '"' :: cs => quoted? cs
  | cs =>
    let (value, rest) := name cs
    if value.isEmpty && !rest.isEmpty then none else some (String.ofList value, rest)

def parameters? : Nat → List Char → Option (List (String × String))
  | _, [] => some []
  | 0, _ => none
  | n + 1, ';' :: cs =>
    match cs.dropWhile (· == ' ') with
    | [] => some []
    | cs => do
      match name cs with
      | ([], _) => none
      | (key, '=' :: rest) =>
        let (value, rest) ← value? rest
        return (String.ofList key, value) :: (← parameters? n rest)
      | _ => none
  | _, _ => none

def parse? (text : String) : Option MediaType :=
  match name text.toList with
  | ([], _) => none
  | (type, '/' :: rest) =>
    match name rest with
    | ([], _ :: _) => none
    | (subtype, rest) =>
      (parameters? rest.length rest).map fun parameters =>
        { type := String.ofList type, subtype := String.ofList subtype, parameters }
  | _ => none

/-- The first parameter of a name, in which case does not count. -/
def parameter? (m : MediaType) (key : String) : Option String :=
  (m.parameters.find? fun p => Text.eqIgnoringAsciiCase p.1.toList key.toList).map (·.2)

end MediaType

end Parley.Provider
