import Parley.Text.Utf8
import Parley.Yaml.Scalar

/-! # Tokens of YAML

A text is made of signs and scalars, and of marks that its indentation stands for. Whether a scalar
is the key of a mapping shows only at the colon after it. The lexer therefore remembers where a key
might begin and puts the token of the key there when it meets the colon. Lines that are indented
further than those before them open a list or a mapping, and lines that are indented less close it.
-/

namespace Parley.Yaml

inductive Token where
  | version (major minor : Nat)
  | tagRule (handle lead : String)
  | documentStart
  | documentEnd
  | blockSequence
  | blockMapping
  | blockEnd
  | sequenceOpen
  | sequenceClose
  | mappingOpen
  | mappingClose
  | comma
  | item
  | key
  | value
  | anchor (name : String)
  | alias (name : String)
  | tag (handle suffix : String)
  | scalar (style : Style) (text : String)
  deriving DecidableEq, Repr

/-- A place where a key may begin. -/
structure KeyPlace where
  /-- The number of tokens before it. -/
  index : Nat
  line : Nat
  column : Nat
  /-- Nothing but a key can stand there. -/
  required : Bool

/-- A key ends on its line and is not longer than 1024 characters. -/
def KeyPlace.isPast (k : KeyPlace) (p : Placed) : Bool :=
  k.line < p.line || k.column + 1024 < p.column

structure Lexer where
  tokens : List Token := []
  key : Option KeyPlace := none
  /-- The places of keys around each of the brackets that are open, the innermost first. -/
  outer : List (Option KeyPlace) := []
  indents : List Nat := []
  keyAllowed : Bool := true

namespace Lexer

def inFlow (lx : Lexer) : Bool :=
  !lx.outer.isEmpty

/-- The least column of a line that belongs to what is open. -/
def base (lx : Lexer) : Nat :=
  match lx.indents with
  | [] => 0
  | i :: _ => i + 1

def emit (lx : Lexer) (t : Token) : Lexer :=
  { lx with tokens := lx.tokens ++ [t] }

def dropKey? (lx : Lexer) : Option Lexer :=
  match lx.key with
  | some { required := true, .. } => none
  | _ => some { lx with key := none }

/-- A place of a key unless it is past; none if it is past and required. -/
def keptKey? (p : Placed) : Option KeyPlace → Option (Option KeyPlace)
  | none => some none
  | some k => if k.isPast p then (if k.required then none else some none) else some (some k)

def dropPast? (lx : Lexer) (p : Placed) : Option Lexer := do
  let key ← keptKey? p lx.key
  let outer ← lx.outer.mapM (keptKey? p)
  return { lx with key, outer }

/-- Notes that a key may begin here, where it is allowed. -/
def noteKey? (lx : Lexer) (p : Placed) : Option Lexer :=
  if lx.keyAllowed then do
    let lx ← lx.dropKey?
    let required := !lx.inFlow && lx.indents.head? == some p.column
    return { lx with
      key := some { index := lx.tokens.length, line := p.line, column := p.column, required } }
  else some lx

/-- Opens a list or a mapping at a column if that is further in, and puts its token at a place
among the tokens. -/
def indentAt (lx : Lexer) (column index : Nat) (t : Token) : Lexer :=
  if !lx.inFlow && lx.indents.all (· < column) then
    { lx with indents := column :: lx.indents, tokens := lx.tokens.insertIdx index t }
  else lx

def indent (lx : Lexer) (column : Nat) (t : Token) : Lexer :=
  lx.indentAt column lx.tokens.length t

def dedent (lx : Lexer) (column : Nat) : Lexer :=
  if lx.inFlow then lx
  else
    { lx with
      tokens := lx.tokens ++ (lx.indents.takeWhile (column < ·)).map fun _ => Token.blockEnd
      indents := lx.indents.dropWhile (column < ·) }

def dedentAll (lx : Lexer) : Lexer :=
  if lx.inFlow then lx
  else { lx with tokens := lx.tokens ++ lx.indents.map fun _ => Token.blockEnd, indents := [] }

def isName (c : Char) : Bool :=
  c.isAlphanum || c == '_' || c == '-'

def name (cs : List Placed) : String × List Placed :=
  (String.ofList ((cs.takeWhile fun p => isName p.char).map (·.char)),
    cs.dropWhile fun p => isName p.char)

def anchorName? (cs : List Placed) : Option (String × List Placed) :=
  let (n, rest) := name cs
  if n.isEmpty then none
  else if endsWord rest || startsWithAny "?:,]\x7d%@\x60" rest then some (n, rest)
  else none

/-- The characters of tags. Inside angle brackets and in rules there are three more. -/
def isTagChar (wide : Bool) (c : Char) : Bool :=
  isName c || ";/?:@&=+$.!~*'()".toList.contains c || (wide && ",[]".toList.contains c)

/-- Whether some bytes are those of one character, as far as their first byte and their number
tell. -/
def isSpelledOut (bytes : List UInt8) : Bool :=
  match bytes with
  | [] => false
  | b :: rest =>
    let width :=
      if b &&& 0x80 = 0 then 1
      else if b &&& 0xE0 = 0xC0 then 2
      else if b &&& 0xF0 = 0xE0 then 3
      else if b &&& 0xF8 = 0xF0 then 4
      else 0
    width = bytes.length && rest.all fun c => c &&& 0xC0 = 0x80

def tagBytes? (wide : Bool) (spelled : List UInt8) : List Placed → Option (List UInt8 × List Placed)
  | [] => if spelled.isEmpty then some ([], []) else none
  | p :: rest =>
    if p.char = '%' then
      match rest with
      | a :: b :: rest =>
        match Json.hexDigit? a.char, Json.hexDigit? b.char with
        | some x, some y =>
          let bytes := spelled ++ [(x * 16 + y).toUInt8]
          if isSpelledOut bytes then
            (tagBytes? wide [] rest).map fun (bs, after) => (bytes ++ bs, after)
          else if bytes.length < 4 then tagBytes? wide bytes rest
          else none
        | _, _ => none
      | _ => none
    else if !spelled.isEmpty then none
    else if isTagChar wide p.char then
      (tagBytes? wide [] rest).map fun (bs, after) => (Utf8.encode [p.char] ++ bs, after)
    else some ([], p :: rest)

def tagText? (wide : Bool) (cs : List Placed) : Option (String × List Placed) :=
  (tagBytes? wide [] cs).map fun (bs, rest) => (String.ofList (Utf8.decodeLossy bs), rest)

/-- Reads the handle of a tag after its first exclamation mark: a name with another one. -/
def handle? (cs : List Placed) : Option (String × List Placed) :=
  match name cs with
  | (n, p :: rest) => if p.char = '!' then some ("!" ++ n ++ "!", rest) else none
  | _ => none

/-- Reads a tag that is written out, after its opening angle bracket. -/
def fullTag? (cs : List Placed) : Option (Token × List Placed) :=
  match tagText? true cs with
  | some (suffix, p :: rest) =>
    if suffix.isEmpty || p.char != '>' then none else some (.tag "" suffix, rest)
  | _ => none

/-- Reads a tag after its first exclamation mark: its handle, which is empty for a tag that is
written out, and the rest of it. A lone mark is a tag that is written out. -/
def tag? (cs : List Placed) : Option (Token × List Placed) :=
  if startsWith '<' cs then fullTag? (cs.drop 1)
  else
    match handle? cs with
    | some (handle, rest) => do
      let (suffix, rest) ← tagText? false rest
      if suffix.isEmpty then none else some (.tag handle suffix, rest)
    | none => do
      let (suffix, rest) ← tagText? false cs
      return (if suffix.isEmpty then .tag "" "!" else .tag "!" suffix, rest)

def skipBlanks (cs : List Placed) : List Placed :=
  cs.dropWhile fun p => isBlank p.char

def number? (cs : List Placed) : Option (Nat × List Placed) :=
  let digits := cs.takeWhile (·.char.isDigit)
  if digits.isEmpty || 9 < digits.length then none
  else
    some (digits.foldl (fun n p => n * 10 + (p.char.toNat - '0'.toNat)) 0,
      cs.dropWhile (·.char.isDigit))

def version? (cs : List Placed) : Option (Token × List Placed) := do
  let (major, cs) ← number? (skipBlanks cs)
  if startsWith '.' cs then
    let (minor, cs) ← number? (cs.drop 1)
    return (.version major minor, cs)
  else none

def tagRule? (cs : List Placed) : Option (Token × List Placed) := do
  let cs := skipBlanks cs
  if startsWith '!' cs then
    let (handle, cs) := (handle? (cs.drop 1)).getD ("!", cs.drop 1)
    if !endsWord cs then none
    let cs := skipBlanks cs
    let (lead, cs) ← tagText? true cs
    if lead.isEmpty || !endsWord cs then none
    else return (.tagRule handle lead, cs)
  else none

def directive? (cs : List Placed) : Option (Token × List Placed) := do
  let (n, cs) := name cs
  if !endsWord cs then none
  let (t, cs) ←
    match n with
    | "YAML" => version? cs
    | "TAG" => tagRule? cs
    | _ => none
  return (t, ← restOfLine? cs)

def separate? (lx : Lexer) (t : Token) (keyAllowed : Bool) : Option Lexer := do
  let lx ← lx.dropKey?
  return { lx.emit t with keyAllowed }

def begin? (lx : Lexer) (p : Placed) (t : Token) : Option Lexer := do
  let lx ← lx.noteKey? p
  return { lx.emit t with keyAllowed := false }

def opened? (lx : Lexer) (p : Placed) (t : Token) : Option Lexer := do
  let lx ← lx.begin? p t
  return { lx with outer := lx.key :: lx.outer, key := none, keyAllowed := true }

def closed? (lx : Lexer) (t : Token) : Option Lexer := do
  let lx ← lx.separate? t false
  match lx.outer with
  | [] => return lx
  | key :: outer => return { lx with key, outer }

/-- A sign that stands in front of a list or a mapping opens it at its column. -/
def leading? (lx : Lexer) (p : Placed) (t : Token) : Option Lexer :=
  if lx.inFlow then some lx
  else if lx.keyAllowed then some (lx.indent p.column t)
  else none

def item? (lx : Lexer) (p : Placed) : Option Lexer := do
  (← lx.leading? p .blockSequence).separate? .item true

def explicitKey? (lx : Lexer) (p : Placed) : Option Lexer := do
  (← lx.leading? p .blockMapping).separate? .key (!lx.inFlow)

/-- The colon of a value. Its key may have been noted before. -/
def value? (lx : Lexer) (p : Placed) : Option Lexer :=
  match lx.key with
  | some k =>
    let lx := { lx with tokens := lx.tokens.insertIdx k.index .key, key := none }
    some { (lx.indentAt k.column k.index .blockMapping).emit .value with keyAllowed := false }
  | none => do
    return { (← lx.leading? p .blockMapping).emit .value with keyAllowed := !lx.inFlow }

def quotedToken? (lx : Lexer) (double : Bool) (p : Placed) (rest : List Placed) :
    Option (Lexer × List Placed) := do
  let (text, rest) ← quoted? double rest
  let style := if double then Style.doubleQuoted else .singleQuoted
  return (← lx.begin? p (.scalar style (String.ofList text)), rest)

def blockToken? (lx : Lexer) (folded : Bool) (rest : List Placed) :
    Option (Lexer × List Placed) := do
  let (text, rest) ← block? folded lx.base rest
  let style := if folded then Style.folded else .literal
  return (← lx.separate? (.scalar style (String.ofList text)) true, rest)

def plainToken? (lx : Lexer) (p : Placed) (rest : List Placed) : Option (Lexer × List Placed) := do
  let (text, crossed, rest) ← plain? lx.inFlow lx.base (p :: rest)
  let lx ← lx.begin? p (.scalar .plain (String.ofList text))
  return ({ lx with keyAllowed := crossed }, rest)

def tagToken? (lx : Lexer) (p : Placed) (rest : List Placed) : Option (Lexer × List Placed) := do
  let (t, rest) ← tag? rest
  if endsWord rest || (lx.inFlow && startsWith ',' rest) then
    return (← lx.begin? p t, rest)
  else none

def startsPlain (inFlow : Bool) (c : Char) (rest : List Placed) : Bool :=
  if c == '-' then !endsWord rest
  else if c == '?' || c == ':' then !inFlow && !endsWord rest
  else !",[]\x7b\x7d#&*!|>'\"%@\x60".toList.contains c && !isBlank c && !isBreak c

def token? (lx : Lexer) (p : Placed) (rest : List Placed) : Option (Lexer × List Placed) :=
  let cs := p :: rest
  if p.column == 0 && p.char == '%' then do
    let (t, rest) ← directive? rest
    return (← lx.dedentAll.separate? t false, rest)
  else if isMarker '-' cs then do
    return (← lx.dedentAll.separate? .documentStart false, cs.drop 3)
  else if isMarker '.' cs then do
    return (← lx.dedentAll.separate? .documentEnd false, cs.drop 3)
  else
    match p.char with
    | '[' => do return (← lx.opened? p .sequenceOpen, rest)
    | '{' => do return (← lx.opened? p .mappingOpen, rest)
    | ']' => do return (← lx.closed? .sequenceClose, rest)
    | '}' => do return (← lx.closed? .mappingClose, rest)
    | ',' => do return (← lx.separate? .comma true, rest)
    | '*' => do
      let (n, rest) ← anchorName? rest
      return (← lx.begin? p (.alias n), rest)
    | '&' => do
      let (n, rest) ← anchorName? rest
      return (← lx.begin? p (.anchor n), rest)
    | '!' => lx.tagToken? p rest
    | '\'' => lx.quotedToken? false p rest
    | '"' => lx.quotedToken? true p rest
    | c =>
      if c == '-' && endsWord rest then do return (← lx.item? p, rest)
      else if c == '?' && (lx.inFlow || endsWord rest) then do return (← lx.explicitKey? p, rest)
      else if c == ':' && (lx.inFlow || endsWord rest) then do return (← lx.value? p, rest)
      else if c == '|' && !lx.inFlow then lx.blockToken? false rest
      else if c == '>' && !lx.inFlow then lx.blockToken? true rest
      else if startsPlain lx.inFlow c rest then lx.plainToken? p rest
      else none

/-- Drops what stands between two tokens: blanks, line breaks, and comments, in which `comment`
says that the text is. Tabs may not stand where a key may begin. A byte order mark may begin a
line. A key may begin on a new line. -/
def skip (lx : Lexer) (comment : Bool) : List Placed → Lexer × List Placed
  | [] => (lx, [])
  | p :: rest =>
    if isBreak p.char then
      skip { lx with keyAllowed := lx.keyAllowed || !lx.inFlow } false rest
    else if comment || p.char == ' ' || (p.char == '\uFEFF' && p.column == 0) ||
        (p.char == '\t' && (lx.inFlow || !lx.keyAllowed)) then
      skip lx comment rest
    else if p.char == '#' then skip lx true rest
    else (lx, p :: rest)

/-- Reads all tokens. Every round takes a token with at least one character, hence the bound. -/
def run? : Nat → Lexer → List Placed → Option Lexer
  | 0, _, _ => none
  | n + 1, lx, cs =>
    match lx.skip false cs with
    | (lx, []) => lx.dedentAll.dropKey?
    | (lx, p :: rest) => do
      let lx ← lx.dropPast? p
      let (lx, rest) ← (lx.dedent p.column).token? p rest
      run? n lx rest

end Lexer

def tokens? (text : List Char) : Option (List Token) := do
  let cs ← placed? text
  let lx ← Lexer.run? (cs.length + 1) {} cs
  return lx.tokens

end Parley.Yaml
