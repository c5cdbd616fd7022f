import Parley.Text.Encoding.CodePages
import Parley.Text.Encoding.Gb18030
import Parley.Text.Encoding.Japanese
import Parley.Text.Utf8

/-! # Encodings

The encodings in which a text from elsewhere may come. A mark at its beginning tells more than
what is said about it. In UTF-16 two bytes make a unit, and one or two units a character.
-/

namespace Parley.Utf16

/-- The code units that pairs of bytes spell, with the greater byte first or last; none for a
single byte at the end. -/
def units (greaterFirst : Bool) : List UInt8 → List (Option Nat)
  | [] => []
  | [_] => [none]
  | a :: b :: rest =>
    let (high, low) := if greaterFirst then (a, b) else (b, a)
    some (high.toNat * 0x100 + low.toNat) :: units greaterFirst rest

def isHigh (unit : Nat) : Bool :=
  0xD800 ≤ unit && unit ≤ 0xDBFF

def isLow (unit : Nat) : Bool :=
  0xDC00 ≤ unit && unit ≤ 0xDFFF

def single (unit : Nat) : Option Char :=
  if isHigh unit || isLow unit then none else some (Char.ofNat unit)

/-- The symbols that code units spell: characters, and `none` where there is no character. Two
halves of a pair form one character. What is left over at the end is one symbol. -/
def ofUnits : List (Option Nat) → List (Option Char)
  | [] => []
  | some a :: some b :: rest =>
    if isHigh a && isLow b then
      some (Char.ofNat (0x10000 + (a - 0xD800) * 0x400 + (b - 0xDC00))) :: ofUnits rest
    else single a :: ofUnits (some b :: rest)
  | [some a, none] => if isHigh a then [none] else [single a, none]
  | some a :: rest => single a :: ofUnits rest
  | none :: rest => none :: ofUnits rest

def symbols (greaterFirst : Bool) (bytes : List UInt8) : List (Option Char) :=
  ofUnits (units greaterFirst bytes)

end Parley.Utf16

namespace Parley.Text

inductive Encoding where
  | utf8
  | utf16 (greaterFirst : Bool)
  | page (p : CodePage)
  | big5
  | korean
  | shiftJis
  | eucJp
  | iso2022Jp
  | gb18030
  | userDefined
  /-- An encoding that is known but not read, since its texts may hide what they say. -/
  | unread
  deriving DecidableEq, Repr

namespace Encoding

def userDefinedChar (b : UInt8) : Char :=
  if b < 0x80 then asciiChar b else Char.ofNat (0xF780 + (b.toNat - 0x80))

/-- The symbols that bytes spell: characters, and `none` where bytes form no character. -/
def symbols (e : Encoding) (bytes : List UInt8) : List (Option Char) :=
  match e with
  | utf8 => Utf8.symbols [] bytes
  | utf16 greaterFirst => Utf16.symbols greaterFirst bytes
  | page p => p.symbols bytes
  | big5 => Pairs.big5.decoder.symbols bytes
  | korean => Pairs.korean.decoder.symbols bytes
  | shiftJis => Pairs.shiftJis.decoder.symbols bytes
  | eucJp => EucJp.decoder.symbols bytes
  | iso2022Jp => Iso2022Jp.decoder.symbols bytes
  | gb18030 => Gb18030.decoder.symbols bytes
  | userDefined => bytes.map fun b => some (userDefinedChar b)
  | unread => if bytes.isEmpty then [] else [none]

/-- The encoding that a mark at the beginning of a text tells, and what follows the mark. -/
def ofMark? : List UInt8 → Option (Encoding × List UInt8)
  | 0xEF :: 0xBB :: 0xBF :: rest => some (utf8, rest)
  | 0xFE :: 0xFF :: rest => some (utf16 true, rest)
  | 0xFF :: 0xFE :: rest => some (utf16 false, rest)
  | _ => none

/-- Reads bytes of any kind, with the replacement character for what is no character. The encoding
is the one that their mark tells, or else the given one. -/
def decode (e : Encoding) (bytes : List UInt8) : List Char :=
  let (e, bytes) := (ofMark? bytes).getD (e, bytes)
  (e.symbols bytes).map (·.getD '\uFFFD')

end Encoding

end Parley.Text
