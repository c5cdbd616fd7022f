import Parley.Text.Encoding.Decoder
import Parley.Text.Encoding.Grid.Big5
import Parley.Text.Encoding.Grid.Jis
import Parley.Text.Encoding.Grid.KsX1001

/-! # Pairs of bytes

Encodings in which a byte beyond ASCII stands for itself or leads a pair. Where a pair stands for
nothing, its second byte is read again if it is ASCII, so that no mark of a text is swallowed.
-/

namespace Parley.Text

structure Pairs where
  single? : UInt8 → Option Char := fun _ => none
  leads : UInt8 → Bool
  pair : UInt8 → UInt8 → List Char

namespace Pairs

/-- Reads a byte, after the first one of a pair if there is one. -/
def step (e : Pairs) (lead : Option UInt8) (b : UInt8) : List (Option Char) × Option UInt8 :=
  match lead with
  | none =>
    if b < 0x80 then ([some (asciiChar b)], none)
    else
      match e.single? b with
      | some c => ([some c], none)
      | none => if e.leads b then ([], some b) else ([none], none)
  | some a =>
    match e.pair a b with
    | [] => (none :: if b < 0x80 then [some (asciiChar b)] else [], none)
    | cs => (cs.map some, none)

def decoder (e : Pairs) : Decoder (Option UInt8) where
  start := none
  step := e.step
  finish lead := if lead.isSome then [none] else []

/-- The number of a second byte among those from `first` to 0x7E and from `second` on. -/
def column? (first second : Nat) (b : UInt8) : Option Nat :=
  let n := b.toNat
  if first ≤ n ∧ n ≤ 0x7E then some (n - first)
  else if second ≤ n ∧ n ≤ 0xFE then some (n - second + (0x7F - first))
  else none

/-- Big5. Four pairs stand for a letter with two accents. -/
def big5 : Pairs where
  leads b := 0x81 ≤ b && b ≤ 0xFE
  pair a b :=
    match a, b with
    | 0x88, 0x62 => ['Ê', '\u0304']
    | 0x88, 0x64 => ['Ê', '\u030C']
    | 0x88, 0xA3 => ['ê', '\u0304']
    | 0x88, 0xA5 => ['ê', '\u030C']
    | _, _ =>
      if a < 0x87 then []
      else
        ((column? 0x40 0xA1 b).bind fun column =>
          Grid.big5.cell? (a.toNat - 0x87) column).toList

def korean : Pairs where
  leads b := 0x81 ≤ b && b ≤ 0xFE
  pair a b :=
    if 0x41 ≤ b ∧ b ≤ 0xFE then (Grid.ksX1001.cell? (a.toNat - 0x81) (b.toNat - 0x41)).toList
    else []

def narrowKatakana? (b : UInt8) : Option Char :=
  if 0xA1 ≤ b ∧ b ≤ 0xDF then some (Char.ofNat (0xFF61 + (b.toNat - 0xA1))) else none

/-- Shift JIS. Twenty rows are left to characters of one's own. -/
def shiftJis : Pairs where
  single? b := if b = 0x80 then some '\x80' else narrowKatakana? b
  leads b := (0x81 ≤ b && b ≤ 0x9F) || (0xE0 ≤ b && b ≤ 0xFC)
  pair a b :=
    match column? 0x40 0x80 b with
    | none => []
    | some column =>
      if b > 0xFC then []
      else
        let place := (a.toNat - (if a < 0xA0 then 0x81 else 0xC1)) * 188 + column
        if 94 ≤ place / 94 ∧ place / 94 < 114 then [Char.ofNat (0xE000 + (place - 94 * 94))]
        else (Grid.jisX0208.cell? (place / 94) (place % 94)).toList

end Pairs

end Parley.Text
