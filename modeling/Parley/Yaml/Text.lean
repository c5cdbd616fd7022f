/-! # Text of YAML

A text is read as characters that know their place. All line breaks that stand for a new line are
made one character; the two separators of Unicode stay as they are.
-/

namespace Parley.Yaml

structure Placed where
  char : Char
  line : Nat
  column : Nat
  deriving DecidableEq, Repr

/-- The characters that may stand in a text. Control characters may not. -/
def isAllowed (c : Char) : Bool :=
  let n := c.toNat
  n == 0x09 || n == 0x0A || n == 0x0D || (0x20 ≤ n && n ≤ 0x7E) || n == 0x85 ||
    (0xA0 ≤ n && n ≤ 0xD7FF) || (0xE000 ≤ n && n ≤ 0xFFFD) || 0x10000 ≤ n

def isBlank (c : Char) : Bool :=
  c == ' ' || c == '\t'

def isBreak (c : Char) : Bool :=
  c == '\n' || c == '\u2028' || c == '\u2029'

/-- Makes a line feed of a carriage return, with or without a line feed, and of a next-line
character. -/
def unifyBreaks : List Char → List Char
  | [] => []
  | '\r' :: '\n' :: rest => '\n' :: unifyBreaks rest
  | c :: rest => (if c = '\r' ∨ c = '\x85' then '\n' else c) :: unifyBreaks rest

def placed (line column : Nat) : List Char → List Placed
  | [] => []
  | c :: rest =>
    { char := c, line, column } ::
      if isBreak c then placed (line + 1) 0 rest else placed line (column + 1) rest

/-- The characters of a text, if all of them may stand there. -/
def placed? (text : List Char) : Option (List Placed) :=
  if text.all isAllowed then some (placed 0 0 (unifyBreaks text)) else none

def endsWord : List Placed → Bool
  | [] => true
  | p :: _ => isBlank p.char || isBreak p.char

def startsWith (c : Char) : List Placed → Bool
  | [] => false
  | p :: _ => p.char == c

def startsWithAny (cs : String) : List Placed → Bool
  | [] => false
  | p :: _ => cs.toList.contains p.char

def isMarker (c : Char) : List Placed → Bool
  | p :: q :: r :: rest =>
    p.column == 0 && p.char == c && q.char == c && r.char == c && endsWord rest
  | _ => false

def isDocumentMark (cs : List Placed) : Bool :=
  isMarker '-' cs || isMarker '.' cs

/-- Drops the rest of the line, which may hold blanks and a comment only, with its break. -/
def restOfLine? (cs : List Placed) : Option (List Placed) :=
  let cs := cs.dropWhile fun p => isBlank p.char
  let cs := if startsWith '#' cs then cs.dropWhile fun p => !isBreak p.char else cs
  match cs with
  | [] => some []
  | p :: rest => if isBreak p.char then some rest else none

end Parley.Yaml
