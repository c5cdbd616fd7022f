/-! # Decoders, code pages and grids

A decoder reads bytes one at a time. It gives symbols: characters, and `none` where bytes form no
character. What it has to remember between two bytes is its state. A code page gives a character to
every byte, or to most. The standards of East Asia lay out their characters in rows of cells, and a
pair of bytes tells the row and the cell.
-/

namespace Parley.Text

def asciiChar (b : UInt8) : Char :=
  Char.ofNat b.toNat

structure Decoder (σ : Type) where
  start : σ
  step : σ → UInt8 → List (Option Char) × σ
  finish : σ → List (Option Char)

namespace Decoder

variable {σ : Type}

def symbolsFrom (d : Decoder σ) (s : σ) : List UInt8 → List (Option Char)
  | [] => d.finish s
  | b :: rest =>
    let taken := d.step s b
    taken.1 ++ symbolsFrom d taken.2 rest

def symbols (d : Decoder σ) (bytes : List UInt8) : List (Option Char) :=
  d.symbolsFrom d.start bytes

end Decoder

/-- A code page, as the characters of its last bytes. The replacement character stands for none. -/
structure CodePage where
  last : String
  deriving DecidableEq, Repr

namespace CodePage

def char? (p : CodePage) (b : UInt8) : Option Char :=
  let first := 0x100 - p.last.toList.length
  if b.toNat < first then some (Char.ofNat b.toNat)
  else
    match p.last.toList[b.toNat - first]? with
    | some '\uFFFD' | none => none
    | some c => some c

def symbols (p : CodePage) (bytes : List UInt8) : List (Option Char) :=
  bytes.map p.char?

end CodePage

/-- Rows of characters. A cell without one stands as the replacement character, and so do all cells
after the end of a row. -/
structure Grid where
  rows : List String

namespace Grid

def cell? (g : Grid) (row column : Nat) : Option Char := do
  let line ← g.rows[row]?
  let c ← line.toList[column]?
  if c = '\uFFFD' then none else some c

end Grid

end Parley.Text
