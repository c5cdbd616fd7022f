/-! # UTF-8

Bytes are read one at a time. The bytes of a character that is not complete yet are the whole
state, so that a text may be cut into pieces anywhere.
-/

namespace Parley.Utf8

/-- What a byte does after the bytes `seen` of an unfinished character. -/
inductive Taken where
  | char (c : Char)
  | more
  | stray
  deriving DecidableEq, Repr

def isContinuation (b : UInt8) : Bool :=
  0x80 ≤ b && b ≤ 0xBF

/-- The second bytes that may follow the first byte of a character of three or four bytes. They
leave out longer forms than needed, surrogates and codes beyond the last character. -/
def isSecond (first b : UInt8) : Bool :=
  if first = 0xE0 then 0xA0 ≤ b && b ≤ 0xBF
  else if first = 0xED then 0x80 ≤ b && b ≤ 0x9F
  else if first = 0xF0 then 0x90 ≤ b && b ≤ 0xBF
  else if first = 0xF4 then 0x80 ≤ b && b ≤ 0x8F
  else isContinuation b

def low (b : UInt8) : Nat :=
  b.toNat % 0x40

def take (seen : List UInt8) (b : UInt8) : Taken :=
  match seen with
  | [] =>
    if b < 0x80 then .char (Char.ofNat b.toNat)
    else if 0xC2 ≤ b && b ≤ 0xF4 then .more
    else .stray
  | [a] =>
    if a ≤ 0xDF then
      if isContinuation b then .char (Char.ofNat (a.toNat % 0x20 * 0x40 + low b)) else .stray
    else if isSecond a b then .more
    else .stray
  | [a, a'] =>
    if isContinuation b then
      if a ≤ 0xEF then .char (Char.ofNat (a.toNat % 0x10 * 0x1000 + low a' * 0x40 + low b))
      else .more
    else .stray
  | [a, a', a''] =>
    if isContinuation b then
      .char (Char.ofNat (a.toNat % 0x08 * 0x40000 + low a' * 0x1000 + low a'' * 0x40 + low b))
    else .stray
  | _ => .stray

/-- The outcome of reading bytes: a text and the bytes of an unfinished character, or the place
and the number of the bytes that form no character. -/
inductive Reading where
  | text (cs : List Char) (pending : List UInt8)
  | malformed (index width : Nat)
  deriving DecidableEq, Repr

def Reading.cons (c : Char) (width : Nat) : Reading → Reading
  | .text cs pending => .text (c :: cs) pending
  | .malformed index w => .malformed (width + index) w

/-- Reads bytes after those of an unfinished character. Places count from the first of these. -/
def read (seen : List UInt8) : List UInt8 → Reading
  | [] => .text [] seen
  | b :: rest =>
    match take seen b with
    | .char c => (read [] rest).cons c (seen.length + 1)
    | .more => read (seen ++ [b]) rest
    | .stray => .malformed 0 (max 1 seen.length)

inductive Fault where
  | invalid (index width : Nat)
  | incomplete (index : Nat)
  deriving DecidableEq, Repr

def Fault.message : Fault → String
  | .invalid index width => s!"invalid utf-8 sequence of {width} bytes from index {index}"
  | .incomplete index => s!"incomplete utf-8 byte sequence from index {index}"

def decode (bytes : List UInt8) : Except Fault (List Char) :=
  match read [] bytes with
  | .text cs [] => .ok cs
  | .text _ pending => .error (.incomplete (bytes.length - pending.length))
  | .malformed index width => .error (.invalid index width)

/-- Reads bytes of any kind: each symbol is a character, or `none` for a run of bytes that forms
no character. -/
def symbols (seen : List UInt8) : List UInt8 → List (Option Char)
  | [] => if seen.isEmpty then [] else [none]
  | b :: rest =>
    match take seen b with
    | .char c => some c :: symbols [] rest
    | .more => symbols (seen ++ [b]) rest
    | .stray =>
      if seen.isEmpty then none :: symbols [] rest
      else
        match take [] b with
        | .char c => none :: some c :: symbols [] rest
        | .more => none :: symbols [b] rest
        | .stray => none :: none :: symbols [] rest

def decodeLossy (bytes : List UInt8) : List Char :=
  (symbols [] bytes).map (·.getD '\uFFFD')

def encode (cs : List Char) : List UInt8 :=
  cs.flatMap String.utf8EncodeChar

end Parley.Utf8
