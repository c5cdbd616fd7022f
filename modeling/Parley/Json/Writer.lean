import Parley.Json.Basic

/-! # Writing JSON

Two layouts: everything on one line without blanks, and one item a line with an indentation of
two spaces a level.
-/

namespace Parley.Json

def hexDigit (n : Nat) : Char :=
  if n < 10 then Char.ofNat ('0'.toNat + n) else Char.ofNat ('a'.toNat + (n - 10))

def unitEscape (code : Nat) : List Char :=
  ['\\', 'u', hexDigit (code / 4096 % 16), hexDigit (code / 256 % 16), hexDigit (code / 16 % 16),
    hexDigit (code % 16)]

/-- A character inside a string: quotes, backslashes and control characters are escaped. -/
def escape (c : Char) : List Char :=
  if c = '"' then ['\\', '"']
  else if c = '\\' then ['\\', '\\']
  else if c = '\x08' then ['\\', 'b']
  else if c = '\x0c' then ['\\', 'f']
  else if c = '\n' then ['\\', 'n']
  else if c = '\r' then ['\\', 'r']
  else if c = '\t' then ['\\', 't']
  else if c.toNat < 0x20 then unitEscape c.toNat
  else [c]

/-- One unit of a string as written. Bytes that form no character have no written form and give
the replacement character. -/
def pieceText : Piece → List Char
  | .symbol (some c) => escape c
  | .symbol none => ['\uFFFD']
  | .unit code => unitEscape code

def stringText (pieces : List Piece) : List Char :=
  '"' :: (pieces.flatMap pieceText ++ ['"'])

mutual

def compactText : Json → List Char
  | .null => "null".toList
  | .bool true => "true".toList
  | .bool false => "false".toList
  | .number literal => literal
  | .string pieces => stringText pieces
  | .array [] => ['[', ']']
  | .array (j :: rest) => '[' :: (compactText j ++ compactItems rest)
  | .object [] => ['{', '}']
  | .object ((key, j) :: rest) =>
    '{' :: (stringText key ++ ':' :: (compactText j ++ compactMembers rest))

def compactItems : List Json → List Char
  | [] => [']']
  | j :: rest => ',' :: (compactText j ++ compactItems rest)

def compactMembers : List (List Piece × Json) → List Char
  | [] => ['}']
  | (key, j) :: rest => ',' :: (stringText key ++ ':' :: (compactText j ++ compactMembers rest))

end

def newLine (level : Nat) : List Char :=
  '\n' :: List.replicate (2 * level) ' '

mutual

def prettyText (level : Nat) : Json → List Char
  | .array [] => ['[', ']']
  | .array (j :: rest) =>
    '[' :: (newLine (level + 1) ++ (prettyText (level + 1) j ++ prettyItems level rest))
  | .object [] => ['{', '}']
  | .object ((key, j) :: rest) =>
    '{' :: (newLine (level + 1) ++ (stringText key ++
      ':' :: ' ' :: (prettyText (level + 1) j ++ prettyMembers level rest)))
  | j => compactText j

def prettyItems (level : Nat) : List Json → List Char
  | [] => newLine level ++ [']']
  | j :: rest =>
    ',' :: (newLine (level + 1) ++ (prettyText (level + 1) j ++ prettyItems level rest))

def prettyMembers (level : Nat) : List (List Piece × Json) → List Char
  | [] => newLine level ++ ['}']
  | (key, j) :: rest =>
    ',' :: (newLine (level + 1) ++ (stringText key ++
      ':' :: ' ' :: (prettyText (level + 1) j ++ prettyMembers level rest)))

end

def compact (j : Json) : String :=
  String.ofList (compactText j)

def pretty (j : Json) : String :=
  String.ofList (prettyText 0 j)

end Parley.Json
