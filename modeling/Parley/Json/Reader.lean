import Parley.Json.Basic
import Parley.Number
import Parley.Text.Utf8

/-! # Reading JSON

A text is read symbol by symbol, so that bytes which form no character may stand inside a string
that nobody asks for. The functions return the symbols that follow what they read. A document that
is read as a whole, and not for some of its members, holds nothing that cannot be read: no string
that spells no text, no number beyond double precision, and no nesting without measure.
-/

namespace Parley.Json

/-- A character of the text, or `none` for bytes that form no character. -/
abbrev Symbol := Option Char

def isBlank (s : Symbol) : Bool :=
  s == some ' ' || s == some '\n' || s == some '\t' || s == some '\r'

def skipBlanks (input : List Symbol) : List Symbol :=
  input.dropWhile isBlank

def hexDigit? (c : Char) : Option Nat :=
  if '0' ≤ c ∧ c ≤ '9' then some (c.toNat - '0'.toNat)
  else if 'a' ≤ c ∧ c ≤ 'f' then some (c.toNat - 'a'.toNat + 10)
  else if 'A' ≤ c ∧ c ≤ 'F' then some (c.toNat - 'A'.toNat + 10)
  else none

def hexUnit? (a b c d : Char) : Option Nat := do
  let a ← hexDigit? a
  let b ← hexDigit? b
  let c ← hexDigit? c
  let d ← hexDigit? d
  return ((a * 16 + b) * 16 + c) * 16 + d

def shortEscape? : Char → Option Char
  | '"' => some '"'
  | '\\' => some '\\'
  | '/' => some '/'
  | 'b' => some '\x08'
  | 'f' => some '\x0c'
  | 'n' => some '\n'
  | 'r' => some '\r'
  | 't' => some '\t'
  | _ => none

/-- Reads the rest of a string up to its closing quote. Control characters must be escaped. -/
def pieces? : List Symbol → Option (List Piece × List Symbol)
  | [] => none
  | some '"' :: rest => some ([], rest)
  | some '\\' :: some 'u' :: some a :: some b :: some c :: some d :: rest =>
    match hexUnit? a b c d, pieces? rest with
    | some code, some (ps, after) => some (.unit code :: ps, after)
    | _, _ => none
  | some '\\' :: some e :: rest =>
    match shortEscape? e, pieces? rest with
    | some c, some (ps, after) => some (.symbol (some c) :: ps, after)
    | _, _ => none
  | some '\\' :: _ => none
  | some c :: rest =>
    if c.toNat < 0x20 then none
    else
      match pieces? rest with
      | some (ps, after) => some (.symbol (some c) :: ps, after)
      | none => none
  | none :: rest =>
    match pieces? rest with
    | some (ps, after) => some (.symbol none :: ps, after)
    | none => none

def isDigit : Symbol → Bool
  | some c => '0' ≤ c && c ≤ '9'
  | none => false

def digits (input : List Symbol) : List Char × List Symbol :=
  ((input.takeWhile isDigit).filterMap id, input.dropWhile isDigit)

def digits? (input : List Symbol) : Option (List Char × List Symbol) :=
  match digits input with
  | ([], _) => none
  | found => some found

/-- Reads the whole part of a number: a zero, or digits that do not begin with one. -/
def whole? : List Symbol → Option (List Char × List Symbol)
  | some '0' :: rest => if isDigit (rest.head?.join) then none else some (['0'], rest)
  | input => digits? input

def places? : List Symbol → Option (List Char × List Symbol)
  | some '.' :: rest => (digits? rest).map fun (ds, after) => ('.' :: ds, after)
  | input => some ([], input)

def exponent? : List Symbol → Option (List Char × List Symbol)
  | some e :: rest =>
    if e = 'e' ∨ e = 'E' then
      match rest with
      | some '+' :: rest => (digits? rest).map fun (ds, after) => (e :: '+' :: ds, after)
      | some '-' :: rest => (digits? rest).map fun (ds, after) => (e :: '-' :: ds, after)
      | rest => (digits? rest).map fun (ds, after) => (e :: ds, after)
    else some ([], some e :: rest)
  | input => some ([], input)

def unsigned? (input : List Symbol) : Option (List Char × List Symbol) := do
  let (whole, rest) ← whole? input
  let (places, rest) ← places? rest
  let (exponent, rest) ← exponent? rest
  return (whole ++ places ++ exponent, rest)

def number? : List Symbol → Option (List Char × List Symbol)
  | some '-' :: rest => (unsigned? rest).map fun (ds, after) => ('-' :: ds, after)
  | input => unsigned? input

mutual

/-- Reads a value. The first argument bounds the number of steps. -/
def value? : Nat → List Symbol → Option (Json × List Symbol)
  | 0, _ => none
  | n + 1, input =>
    match skipBlanks input with
    | some 'n' :: some 'u' :: some 'l' :: some 'l' :: rest => some (.null, rest)
    | some 't' :: some 'r' :: some 'u' :: some 'e' :: rest => some (.bool true, rest)
    | some 'f' :: some 'a' :: some 'l' :: some 's' :: some 'e' :: rest => some (.bool false, rest)
    | some '"' :: rest => (pieces? rest).map fun (ps, after) => (.string ps, after)
    | some '[' :: rest =>
      match skipBlanks rest with
      | some ']' :: after => some (.array [], after)
      | rest => (items? n rest).map fun (js, after) => (.array js, after)
    | some '{' :: rest =>
      match skipBlanks rest with
      | some '}' :: after => some (.object [], after)
      | rest => (members? n rest).map fun (ms, after) => (.object ms, after)
    | rest => (number? rest).map fun (ds, after) => (.number ds, after)

def items? : Nat → List Symbol → Option (List Json × List Symbol)
  | 0, _ => none
  | n + 1, input =>
    match value? n input with
    | none => none
    | some (j, rest) =>
      match skipBlanks rest with
      | some ',' :: rest => (items? n rest).map fun (js, after) => (j :: js, after)
      | some ']' :: rest => some ([j], rest)
      | _ => none

def members? : Nat → List Symbol → Option (List (List Piece × Json) × List Symbol)
  | 0, _ => none
  | n + 1, input =>
    match skipBlanks input with
    | some '"' :: rest =>
      match pieces? rest with
      | none => none
      | some (key, rest) =>
        match skipBlanks rest with
        | some ':' :: rest =>
          match value? n rest with
          | none => none
          | some (j, rest) =>
            match skipBlanks rest with
            | some ',' :: rest => (members? n rest).map fun (ms, after) => ((key, j) :: ms, after)
            | some '}' :: rest => some ([(key, j)], rest)
            | _ => none
        | _ => none
    | _ => none

end

/-- The value that symbols spell, with blanks around it and nothing else. Every level of nesting
takes two steps and at least one symbol, hence the bound. -/
def ofSymbols? (input : List Symbol) : Option Json :=
  match value? (2 * input.length + 2) input with
  | some (j, rest) => if (skipBlanks rest).isEmpty then some j else none
  | none => none

def parse? (text : String) : Option Json :=
  ofSymbols? (text.toList.map some)

def ofBytes? (bytes : List UInt8) : Option Json :=
  ofSymbols? (Utf8.symbols [] bytes)

mutual

def isReadable : Json → Bool
  | .number literal => (Double.ofChars? literal).isSome
  | .string pieces => (textOf? pieces).isSome
  | .array items => areReadable items
  | .object members => haveReadable members
  | _ => true

def areReadable : List Json → Bool
  | [] => true
  | j :: rest => isReadable j && areReadable rest

def haveReadable : List (List Piece × Json) → Bool
  | [] => true
  | (key, j) :: rest => (textOf? key).isSome && isReadable j && haveReadable rest

end

mutual

def depth : Json → Nat
  | .array items => depthOfItems items + 1
  | .object members => depthOfMembers members + 1
  | _ => 0

def depthOfItems : List Json → Nat
  | [] => 0
  | j :: rest => max (depth j) (depthOfItems rest)

def depthOfMembers : List (List Piece × Json) → Nat
  | [] => 0
  | (_, j) :: rest => max (depth j) (depthOfMembers rest)

end

/-- The least depth that is too deep. -/
def depthLimit : Nat := 128

def document? (text : String) : Option Json :=
  (parse? text).filter fun j => j.depth < depthLimit && j.isReadable

end Parley.Json
