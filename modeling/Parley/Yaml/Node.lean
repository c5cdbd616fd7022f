import Parley.Yaml.Lexer

/-! # Documents of YAML

A document is a tree of scalars, sequences and mappings. A node may carry a label, for which an
alias stands elsewhere.
-/

namespace Parley.Yaml

structure Scalar where
  tag : Option String := none
  style : Style := .plain
  text : String := ""
  deriving DecidableEq, Repr

inductive Node where
  | scalar (label : Option Nat) (s : Scalar)
  | sequence (label : Option Nat) (tag : Option String) (items : List Node)
  | mapping (label : Option Nat) (tag : Option String) (entries : List (Node × Node))
  | alias (label : Nat)
  deriving Inhabited, Repr

namespace Node

def empty : Node :=
  .scalar none {}

mutual

/-- The last node, in the order of the text, that carries a label. -/
def labelled? (label : Nat) : Node → Option Node
  | .alias _ => none
  | .scalar l s => if l = some label then some (.scalar l s) else none
  | .sequence l tag items =>
    match labelledItem? label items with
    | some node => some node
    | none => if l = some label then some (.sequence l tag items) else none
  | .mapping l tag entries =>
    match labelledEntry? label entries with
    | some node => some node
    | none => if l = some label then some (.mapping l tag entries) else none

def labelledItem? (label : Nat) : List Node → Option Node
  | [] => none
  | node :: rest =>
    match labelledItem? label rest with
    | some found => some found
    | none => labelled? label node

def labelledEntry? (label : Nat) : List (Node × Node) → Option Node
  | [] => none
  | (key, value) :: rest =>
    match labelledEntry? label rest with
    | some found => some found
    | none =>
      match labelled? label value with
      | some found => some found
      | none => labelled? label key

end

/-- What a node is within a document: the node that an alias stands for, or itself. -/
def resolve (root : Node) : Node → Option Node
  | .alias label => root.labelled? label
  | node => some node

/-- Tokens to come, and the labels of the names met so far. -/
structure Source where
  tokens : List Token
  names : List (String × Nat) := []

def Source.next (s : Source) : Option Token :=
  s.tokens.head?

def Source.rest (s : Source) : Source :=
  { s with tokens := s.tokens.drop 1 }

def Source.labelOf? (s : Source) (name : String) : Option Nat :=
  (s.names.find? (·.1 == name)).map (·.2)

def Source.name (s : Source) (name : String) : Nat × Source :=
  let label := s.names.length
  (label, { s with names := (name, label) :: s.names.filter (·.1 != name) })

structure Properties where
  label : Option Nat := none
  tag : Option String := none

def fullTag? (rules : List (String × String)) (handle suffix : String) : Option String :=
  if handle.isEmpty then some suffix
  else (rules.find? (·.1 == handle)).map (·.2 ++ suffix)

def anchor (p : Properties) (s : Source) : Properties × Source :=
  match s.next with
  | some (.anchor n) =>
    let (label, s) := s.rest.name n
    ({ p with label := some label }, s)
  | _ => (p, s)

def tag? (rules : List (String × String)) (p : Properties) (s : Source) :
    Option (Properties × Source) :=
  match s.next with
  | some (.tag handle suffix) => do
    return ({ p with tag := some (← fullTag? rules handle suffix) }, s.rest)
  | _ => some (p, s)

def properties? (rules : List (String × String)) (s : Source) : Option (Properties × Source) :=
  match s.next with
  | some (.anchor _) =>
    let (p, s) := anchor {} s
    tag? rules p s
  | _ => do
    let (p, s) ← tag? rules {} s
    return if p.tag.isSome then anchor p s else (p, s)

/-- A scalar with its properties. A lone exclamation mark is no tag. -/
def scalarOf (p : Properties) (style : Style) (text : String) : Node :=
  .scalar p.label { tag := if p.tag = some "!" then none else p.tag, style, text }

inductive Position where
  | flow
  | block
  /-- In a mapping of lines, where the items of a sequence need no further indentation. -/
  | entry
  deriving DecidableEq

/-- Whether nothing is written where one of some tokens, or none, comes next. -/
def isMissing (s : Source) (ends : List Token) : Bool :=
  match s.next with
  | none => false
  | some t => ends.contains t

mutual

/-- Reads a node. The first argument bounds the number of steps. -/
def read? (rules : List (String × String)) :
    Nat → Position → Source → Option (Node × Source)
  | 0, _, _ => none
  | n + 1, position, s =>
    match s.next with
    | some (.alias name) => do return (.alias (← s.labelOf? name), s.rest)
    | _ => do
      let (p, s) ← properties? rules s
      match s.next with
      | some (.scalar style text) => return (scalarOf p style text, s.rest)
      | some .sequenceOpen => do
        let (items, s) ← flowItems? rules n true s.rest
        return (.sequence p.label p.tag items, s)
      | some .mappingOpen => do
        let (entries, s) ← flowEntries? rules n true s.rest
        return (.mapping p.label p.tag entries, s)
      | t =>
        if position = .entry ∧ t = some .item then do
          let (items, s) ← looseItems? rules n s
          return (.sequence p.label p.tag items, s)
        else if position ≠ .flow ∧ t = some .blockSequence then do
          let (items, s) ← blockItems? rules n s.rest
          return (.sequence p.label p.tag items, s)
        else if position ≠ .flow ∧ t = some .blockMapping then do
          let (entries, s) ← blockEntries? rules n s.rest
          return (.mapping p.label p.tag entries, s)
        else if p.label.isSome || p.tag.isSome then
          return (.scalar p.label { tag := p.tag }, s)
        else none

/-- Reads a node, or the empty one where one of some tokens comes next. -/
def readOr? (rules : List (String × String)) :
    Nat → List Token → Position → Source → Option (Node × Source)
  | 0, _, _, _ => none
  | n + 1, ends, position, s =>
    if isMissing s ends then some (.empty, s) else read? rules n position s

def blockItems? (rules : List (String × String)) : Nat → Source → Option (List Node × Source)
  | 0, _ => none
  | n + 1, s =>
    match s.next with
    | some .item => do
      let (node, s) ← readOr? rules n [.item, .blockEnd] .block s.rest
      let (items, s) ← blockItems? rules n s
      return (node :: items, s)
    | some .blockEnd => some ([], s.rest)
    | _ => none

def looseItems? (rules : List (String × String)) : Nat → Source → Option (List Node × Source)
  | 0, _ => none
  | n + 1, s =>
    match s.next with
    | some .item => do
      let (node, s) ← readOr? rules n [.item, .key, .value, .blockEnd] .block s.rest
      let (items, s) ← looseItems? rules n s
      return (node :: items, s)
    | _ => some ([], s)

def blockEntries? (rules : List (String × String)) :
    Nat → Source → Option (List (Node × Node) × Source)
  | 0, _ => none
  | n + 1, s =>
    match s.next with
    | some .key => do
      let (key, s) ← readOr? rules n [.key, .value, .blockEnd] .entry s.rest
      let (value, s) ←
        if s.next = some .value then readOr? rules n [.key, .value, .blockEnd] .entry s.rest
        else some (Node.empty, s)
      let (entries, s) ← blockEntries? rules n s
      return ((key, value) :: entries, s)
    | some .blockEnd => some ([], s.rest)
    | _ => none

/-- Reads the items of a sequence in brackets with the closing one. A comma stands between two
items and may follow the last one. -/
def flowItems? (rules : List (String × String)) :
    Nat → Bool → Source → Option (List Node × Source)
  | 0, _, _ => none
  | n + 1, first, s =>
    match s.next with
    | some .sequenceClose => some ([], s.rest)
    | t =>
      if first ∨ t = some .comma then
        let s := if first then s else s.rest
        match s.next with
        | some .sequenceClose => some ([], s.rest)
        | some .key => do
          let (entry, s) ← flowPair? rules n s.rest
          let (items, s) ← flowItems? rules n false s
          return (.mapping none none [entry] :: items, s)
        | _ => do
          let (node, s) ← read? rules n .flow s
          let (items, s) ← flowItems? rules n false s
          return (node :: items, s)
      else none

/-- Reads a key and its value that are an item of a sequence. Where the key is missing, the next
token is passed over. -/
def flowPair? (rules : List (String × String)) : Nat → Source → Option ((Node × Node) × Source)
  | 0, _ => none
  | n + 1, s => do
    let ends : List Token := [.comma, .sequenceClose]
    let (key, s) ←
      if isMissing s (.value :: ends) then some (Node.empty, s.rest) else read? rules n .flow s
    let (value, s) ←
      if s.next = some .value then readOr? rules n ends .flow s.rest else some (Node.empty, s)
    return ((key, value), s)

/-- Reads the entries of a mapping in braces with the closing one. A comma stands between two
entries and may follow the last one. A node without a colon is a key. -/
def flowEntries? (rules : List (String × String)) :
    Nat → Bool → Source → Option (List (Node × Node) × Source)
  | 0, _, _ => none
  | n + 1, first, s =>
    match s.next with
    | some .mappingClose => some ([], s.rest)
    | t =>
      if first ∨ t = some .comma then
        let s := if first then s else s.rest
        match s.next with
        | some .mappingClose => some ([], s.rest)
        | some .key => do
          let ends : List Token := [.comma, .mappingClose]
          let (key, s) ← readOr? rules n (.value :: ends) .flow s.rest
          let (value, s) ←
            if s.next = some .value then readOr? rules n ends .flow s.rest
            else some (Node.empty, s)
          let (entries, s) ← flowEntries? rules n false s
          return ((key, value) :: entries, s)
        | _ => do
          let (key, s) ← read? rules n .flow s
          let (entries, s) ← flowEntries? rules n false s
          return ((key, .empty) :: entries, s)
      else none

end

def defaultRules : List (String × String) :=
  [("!", "!"), ("!!", "tag:yaml.org,2002:")]

/-- Reads directives: at most one version, which must be 1.1 or 1.2, and one rule for each
handle. -/
def directives? (versioned : Bool) (rules : List (String × String)) :
    List Token → Option (List (String × String) × List Token)
  | .version major minor :: rest =>
    if !versioned && major == 1 && (minor == 1 || minor == 2) then directives? true rules rest
    else none
  | .tagRule handle lead :: rest =>
    if rules.any (·.1 == handle) then none else directives? versioned ((handle, lead) :: rules) rest
  | tokens => some (rules ++ defaultRules, tokens)

/-- Reads the node of a document and what ends it. Nothing may follow. -/
def only? (rules : List (String × String)) (tokens : List Token) : Option Node := do
  let (node, s) ← read? rules (4 * tokens.length + 4) .block { tokens }
  if (s.tokens.dropWhile (· == .documentEnd)).isEmpty then some node else none

/-- The node after the mark of a document, which may be empty. -/
def explicit? (rules : List (String × String)) (tokens : List Token) : Option Node :=
  match tokens with
  | [] => some .empty
  | .documentEnd :: rest => if rest.all (· == .documentEnd) then some .empty else none
  | tokens => only? rules tokens

def document? (text : List Char) : Option (Option Node) := do
  let tokens ← tokens? text
  if tokens.isEmpty then return none
  match ← directives? false [] tokens with
  | (rules, .documentStart :: rest) => return some (← explicit? rules rest)
  | (rules, rest) =>
    if rest.length = tokens.length then return some (← only? rules rest) else none

end Node

end Parley.Yaml
