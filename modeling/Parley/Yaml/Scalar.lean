import Parley.Json.Reader
import Parley.Yaml.Text

/-! # Scalars in YAML

A scalar is written plain, in quotes or as a block of lines. Where a plain or quoted scalar goes
over several lines, a single line break counts as a space and further ones as themselves. The
functions return the characters that follow what they read.
-/

namespace Parley.Yaml

inductive Style where
  | plain
  | singleQuoted
  | doubleQuoted
  | literal
  | folded
  deriving DecidableEq, Repr

/-- Blanks and line breaks between two words. -/
structure Gap where
  blanks : List Char := []
  breaks : List Char := []
  /-- The gap begins with a line break that is escaped and stands for nothing. -/
  escaped : Bool := false

namespace Gap

def crossesLines (g : Gap) : Bool :=
  g.escaped || !g.breaks.isEmpty

def text (g : Gap) : List Char :=
  if g.escaped then g.breaks
  else
    match g.breaks with
    | [] => g.blanks
    | ['\n'] => [' ']
    | '\n' :: more => more
    | breaks => breaks

/-- Reads a gap. Tabs may not indent a line up to a column. -/
def read? (indent : Nat) (g : Gap) : List Placed → Option (Gap × List Placed)
  | [] => some (g, [])
  | p :: rest =>
    if isBlank p.char then
      if !g.crossesLines then read? indent { g with blanks := g.blanks ++ [p.char] } rest
      else if p.char = '\t' ∧ p.column < indent then none
      else read? indent g rest
    else if isBreak p.char then read? indent { g with breaks := g.breaks ++ [p.char] } rest
    else some (g, p :: rest)

end Gap

def plainWord? (inFlow : Bool) : List Placed → Option (List Char × List Placed)
  | [] => some ([], [])
  | p :: rest =>
    if isBlank p.char || isBreak p.char then some ([], p :: rest)
    else if inFlow && p.char == ':' && startsWithAny ",?[]\x7b\x7d" rest then none
    else if p.char == ':' && endsWord rest then some ([], p :: rest)
    else if inFlow && startsWithAny ",[]\x7b\x7d" [p] then some ([], p :: rest)
    else (plainWord? inFlow rest).map fun (cs, after) => (p.char :: cs, after)

/-- Reads a plain scalar whose further lines are indented up to a column: its text, and whether it
was left by a line break. Every round takes a word, hence the bound. -/
def plainFrom? (inFlow : Bool) (indent : Nat) :
    Nat → List Char → Gap → List Placed → Option (List Char × Bool × List Placed)
  | 0, _, _, _ => none
  | n + 1, text, gap, cs =>
    if isDocumentMark cs || startsWith '#' cs then some (text, gap.crossesLines, cs)
    else
      match plainWord? inFlow cs with
      | none => none
      | some ([], _) => some (text, gap.crossesLines, cs)
      | some (word, rest) =>
        let text := text ++ gap.text ++ word
        match rest with
        | [] => some (text, false, [])
        | p :: _ =>
          if isBlank p.char || isBreak p.char then
            match Gap.read? indent {} rest with
            | none => none
            | some (gap, []) => some (text, gap.crossesLines, [])
            | some (gap, q :: rest) =>
              if !inFlow && q.column < indent then some (text, gap.crossesLines, q :: rest)
              else plainFrom? inFlow indent n text gap (q :: rest)
          else some (text, false, rest)

def plain? (inFlow : Bool) (indent : Nat) (cs : List Placed) :
    Option (List Char × Bool × List Placed) :=
  plainFrom? inFlow indent (cs.length + 1) [] {} cs

def shortEscape? : Char → Option Char
  | '0' => some '\x00'
  | 'a' => some '\x07'
  | 'b' => some '\x08'
  | 't' => some '\t'
  | '\t' => some '\t'
  | 'n' => some '\n'
  | 'v' => some '\x0b'
  | 'f' => some '\x0c'
  | 'r' => some '\r'
  | 'e' => some '\x1b'
  | ' ' => some ' '
  | '"' => some '"'
  | '/' => some '/'
  | '\\' => some '\\'
  | 'N' => some '\x85'
  | '_' => some '\xa0'
  | 'L' => some '\u2028'
  | 'P' => some '\u2029'
  | _ => none

def digitsOf? : Char → Option Nat
  | 'x' => some 2
  | 'u' => some 4
  | 'U' => some 8
  | _ => none

def hexNumber? (cs : List Placed) : Option Nat :=
  cs.foldlM (fun n p => (Json.hexDigit? p.char).map (n * 16 + ·)) 0

def charOf? (code : Nat) : Option Char :=
  if code.isValidChar then some (Char.ofNat code) else none

/-- A word inside quotes, and whether an escaped line break ended it. -/
structure QuotedWord where
  chars : List Char
  escapedBreak : Bool := false
  rest : List Placed

def QuotedWord.cons (c : Char) (w : QuotedWord) : QuotedWord :=
  { w with chars := c :: w.chars }

/-- Reads a word inside single quotes, where two quotes stand for one. -/
def singleQuotedWord : List Placed → QuotedWord
  | [] => { chars := [], rest := [] }
  | p :: rest =>
    if p.char = '\'' then
      match rest with
      | q :: rest =>
        if q.char = '\'' then (singleQuotedWord rest).cons '\'' else { chars := [], rest := p :: q :: rest }
      | [] => { chars := [], rest := [p] }
    else if isBlank p.char || isBreak p.char then { chars := [], rest := p :: rest }
    else (singleQuotedWord rest).cons p.char

/-- Reads a word inside double quotes. The first argument bounds the number of characters. -/
def doubleQuotedWord? : Nat → List Placed → Option QuotedWord
  | 0, _ => none
  | _, [] => some { chars := [], rest := [] }
  | n + 1, p :: rest =>
    if p.char = '"' || isBlank p.char || isBreak p.char then
      some { chars := [], rest := p :: rest }
    else if p.char = '\\' then
      match rest with
      | [] => none
      | e :: rest =>
        if isBreak e.char then some { chars := [], escapedBreak := true, rest }
        else
          match shortEscape? e.char, digitsOf? e.char with
          | some c, _ => (doubleQuotedWord? n rest).map (·.cons c)
          | none, some k =>
            if rest.length < k then none
            else
              match (hexNumber? (rest.take k)).bind charOf? with
              | some c => (doubleQuotedWord? n (rest.drop k)).map (·.cons c)
              | none => none
          | none, none => none
    else (doubleQuotedWord? n rest).map (·.cons p.char)

/-- Reads the rest of a quoted scalar with its closing quote. Every round takes a word with the
gap after it, hence the bound. -/
def quotedFrom? (double : Bool) :
    Nat → List Char → List Placed → Option (List Char × List Placed)
  | 0, _, _ => none
  | n + 1, text, cs =>
    if isDocumentMark cs || cs.isEmpty then none
    else
      let word? := if double then doubleQuotedWord? (cs.length + 1) cs else some (singleQuotedWord cs)
      match word? with
      | none => none
      | some word =>
        let text := text ++ word.chars
        if startsWith (if double then '"' else '\'') word.rest then some (text, word.rest.drop 1)
        else
          match Gap.read? 0 { escaped := word.escapedBreak } word.rest with
          | none => none
          | some (gap, rest) => quotedFrom? double n (text ++ gap.text) rest

def quoted? (double : Bool) (cs : List Placed) : Option (List Char × List Placed) :=
  quotedFrom? double (cs.length + 1) [] cs

inductive Chomping where
  | strip
  | clip
  | keep
  deriving DecidableEq, Repr

/-- Reads how a block ends. -/
def chomping : List Placed → Chomping × List Placed
  | [] => (.clip, [])
  | p :: rest =>
    if p.char = '-' then (.strip, rest)
    else if p.char = '+' then (.keep, rest)
    else (.clip, p :: rest)

def indentation? : List Placed → Option (Option Nat × List Placed)
  | [] => some (none, [])
  | p :: rest =>
    if p.char = '0' then none
    else if p.char.isDigit then some (some (p.char.toNat - '0'.toNat), rest)
    else some (none, p :: rest)

/-- Reads the two signs after the one that begins a block, which may come in either order, with
the rest of the line. -/
def blockHeader? (cs : List Placed) : Option (Chomping × Option Nat × List Placed) :=
  if startsWithAny "+-" cs then do
    let (c, cs) := chomping cs
    let (i, cs) ← indentation? cs
    return (c, i, ← restOfLine? cs)
  else do
    let (i, cs) ← indentation? cs
    let (c, cs) := if i.isSome then chomping cs else (.clip, cs)
    return (c, i, ← restOfLine? cs)

/-- Reads empty lines and the indentation after them up to a column, or as far as it goes if that
is not known. Gives the line breaks and the widest indentation. -/
def emptyLines? (indent : Option Nat) (breaks : List Char) (widest : Nat) :
    List Placed → Option (List Char × Nat × List Placed)
  | [] => some (breaks, widest, [])
  | p :: rest =>
    let within := indent.all (p.column < ·)
    if within && p.char == ' ' then emptyLines? indent breaks widest rest
    else if within && p.char == '\t' then none
    else if isBreak p.char then
      emptyLines? indent (breaks ++ [p.char]) (max widest p.column) rest
    else some (breaks, max widest p.column, p :: rest)

/-- The lines of a block under way. -/
structure Block where
  text : List Char := []
  lineBreak : List Char := []
  emptyBreaks : List Char
  indented : Bool := false

namespace Block

/-- Adds a line, of which `c` is the first character. A folded block joins two lines by a space if
none of them begins with a blank and no empty line stands between them. -/
def addLine (b : Block) (folded : Bool) (c : Char) (line lineBreak emptyBreaks : List Char) :
    Block :=
  let joined :=
    if folded && b.lineBreak == ['\n'] && !b.indented && !isBlank c then
      if b.emptyBreaks.isEmpty then [' '] else b.emptyBreaks
    else b.lineBreak ++ b.emptyBreaks
  { text := b.text ++ joined ++ line, lineBreak, emptyBreaks, indented := isBlank c }

def finish (b : Block) : Chomping → List Char
  | .strip => b.text
  | .clip => b.text ++ b.lineBreak
  | .keep => b.text ++ b.lineBreak ++ b.emptyBreaks

/-- Reads the lines that begin at a column. Every round takes a line, hence the bound. -/
def read? (folded : Bool) (indent : Nat) : Nat → Block → List Placed → Option (Block × List Placed)
  | 0, _, _ => none
  | _, b, [] => some (b, [])
  | n + 1, b, p :: rest =>
    if p.column = indent then
      let line := (p :: rest).takeWhile fun q => !isBreak q.char
      let after := (p :: rest).dropWhile fun q => !isBreak q.char
      match emptyLines? (some indent) [] 0 (after.drop 1) with
      | none => none
      | some (emptyBreaks, _, rest) =>
        read? folded indent n
          (b.addLine folded p.char (line.map (·.char)) ((after.take 1).map (·.char)) emptyBreaks) rest
    else some (b, p :: rest)

end Block

/-- Reads a block after the sign that begins it. It is indented by at least `base` columns. -/
def block? (folded : Bool) (base : Nat) (cs : List Placed) : Option (List Char × List Placed) := do
  let (chomping, indent, cs) ← blockHeader? cs
  let given := indent.map fun k => if base = 0 then k else base - 1 + k
  let (emptyBreaks, widest, rest) ← emptyLines? given [] 0 cs
  let indent := given.getD (max 1 (max widest base))
  let (b, rest) ← Block.read? folded indent (rest.length + 1) { emptyBreaks } rest
  return (b.finish chomping, rest)

end Parley.Yaml
