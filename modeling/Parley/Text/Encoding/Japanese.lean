import Parley.Text.Encoding.Pairs

/-! # Japanese beyond pairs

EUC-JP has a third byte for the characters of a supplementary standard. ISO-2022-JP is written in
bytes of ASCII alone, and escape sequences tell which set of characters they stand for.
-/

namespace Parley.Text

def placeAmong94? (first : Nat) (b : UInt8) : Option Nat :=
  if first ≤ b.toNat ∧ b.toNat < first + 94 then some (b.toNat - first) else none

def Grid.pair? (g : Grid) (first : Nat) (a b : UInt8) : Option Char := do
  g.cell? (← placeAmong94? first a) (← placeAmong94? first b)

namespace EucJp

inductive Pending where
  | nothing
  | one (a : UInt8)
  | supplementary (a : UInt8)
  deriving DecidableEq, Repr

/-- The end of a character, which may not be one. -/
def complete (found : Option Char) (b : UInt8) : List (Option Char) × Pending :=
  match found with
  | some c => ([some c], .nothing)
  | none => (none :: if b < 0x80 then [some (asciiChar b)] else [], .nothing)

def step (pending : Pending) (b : UInt8) : List (Option Char) × Pending :=
  match pending with
  | .nothing =>
    if b < 0x80 then ([some (asciiChar b)], .nothing)
    else if b = 0x8E ∨ b = 0x8F ∨ (placeAmong94? 0xA1 b).isSome then ([], .one b)
    else ([none], .nothing)
  | .one a =>
    if a = 0x8E then complete (Pairs.narrowKatakana? b) b
    else if a = 0x8F ∧ (placeAmong94? 0xA1 b).isSome then ([], .supplementary b)
    else complete (Grid.jisX0208.pair? 0xA1 a b) b
  | .supplementary a => complete (Grid.jisX0212.pair? 0xA1 a b) b

def decoder : Decoder Pending where
  start := .nothing
  step
  finish pending := if pending = .nothing then [] else [none]

end EucJp

namespace Iso2022Jp

inductive CharacterSet where
  | ascii
  | roman
  | katakana
  | wide
  deriving DecidableEq, Repr

inductive Pending where
  | nothing
  | one (a : UInt8)
  | escape
  | escapeAnd (a : UInt8)
  deriving DecidableEq, Repr

structure State where
  set : CharacterSet := .ascii
  pending : Pending := .nothing
  /-- Nothing has been written since the last escape sequence. -/
  justEscaped : Bool := false
  deriving DecidableEq, Repr

def begin (s : State) (b : UInt8) : List (Option Char) × State :=
  let s' := { s with pending := .nothing, justEscaped := false }
  let plain : Option Char :=
    if b < 0x80 ∧ b ≠ 0x0E ∧ b ≠ 0x0F then some (asciiChar b) else none
  if b = 0x1B then ([], { s with pending := .escape })
  else
    match s.set with
    | .ascii => ([plain], s')
    | .roman =>
      ([if b = 0x5C then some '¥' else if b = 0x7E then some '‾' else plain], s')
    | .katakana =>
      ([if 0x21 ≤ b ∧ b ≤ 0x5F then Pairs.narrowKatakana? (b + 0x80) else none], s')
    | .wide =>
      if (placeAmong94? 0x21 b).isSome then ([], { s' with pending := .one b }) else ([none], s')

def second (s : State) (a b : UInt8) : List (Option Char) × State :=
  if b = 0x1B then ([none], { s with pending := .escape })
  else ([Grid.jisX0208.pair? 0x21 a b], { s with pending := .nothing })

def outside (s : State) (b : UInt8) : List (Option Char) × State :=
  match s.pending with
  | .one a => second s a b
  | _ => begin s b

def set? : UInt8 → UInt8 → Option CharacterSet
  | 0x28, 0x42 => some .ascii
  | 0x28, 0x4A => some .roman
  | 0x28, 0x49 => some .katakana
  | 0x24, 0x40 | 0x24, 0x42 => some .wide
  | _, _ => none

/-- Reads a byte. What only looks like an escape sequence is an error, and its bytes after the
first are read again. So is a second escape sequence right after one. -/
def step (s : State) (b : UInt8) : List (Option Char) × State :=
  match s.pending with
  | .escape =>
    if b = 0x24 ∨ b = 0x28 then ([], { s with pending := .escapeAnd b })
    else
      let taken := begin { s with justEscaped := false } b
      (none :: taken.1, taken.2)
  | .escapeAnd a =>
    match set? a b with
    | some set => (if s.justEscaped then [none] else [], { set, justEscaped := true })
    | none =>
      let first := begin { s with justEscaped := false } a
      let taken := outside first.2 b
      (none :: (first.1 ++ taken.1), taken.2)
  | _ => outside s b

def finish (s : State) : List (Option Char) :=
  match s.pending with
  | .nothing => []
  | .one _ | .escape => [none]
  | .escapeAnd a =>
    let first := begin s a
    none :: (first.1 ++ if first.2.pending = .nothing then [] else [none])

def decoder : Decoder State where
  start := {}
  step
  finish

end Iso2022Jp

end Parley.Text
