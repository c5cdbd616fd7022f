import Parley.Json.Writer
import Parley.Text.Lowercase
import Parley.Text.Utf8

/-! # Addresses

The address of a request: the server, and what the server is asked for. An address is brought
into one form first, without steps up and down and with everything escaped that may not stand in
it.
-/

namespace Parley.Provider

structure Url where
  authority : String
  /-- The path with its query. -/
  target : String
  deriving DecidableEq, Repr

namespace Url

def escapeByte (b : UInt8) : List Char :=
  ['%', asciiCapital (Json.hexDigit (b.toNat / 16)), asciiCapital (Json.hexDigit (b.toNat % 16))]
where
  asciiCapital (c : Char) : Char := c.toUpper

def escape (others : String) (cs : List Char) : List Char :=
  cs.flatMap fun c =>
    if c.toNat ≤ 0x20 || 0x7F ≤ c.toNat || others.toList.contains c then
      (Utf8.encode [c]).flatMap escapeByte
    else [c]

def pathEscapes : String := "\"<>\x60\x7b\x7d"

def queryEscapes : String := "\"<>'"

/-- The parts of a path. A backslash is as good as a slash. -/
def parts : List Char → List (List Char)
  | [] => [[]]
  | c :: rest =>
    if c = '/' ∨ c = '\\' then [] :: parts rest
    else
      match parts rest with
      | [] => [[c]]
      | p :: ps => (c :: p) :: ps

/-- Whether a part is made of a number of dots, which may be escaped. -/
def isDots : Nat → List Char → Bool
  | 0, cs => cs.isEmpty
  | _ + 1, [] => false
  | n + 1, '.' :: rest => isDots n rest
  | n + 1, '%' :: '2' :: e :: rest => (e == 'e' || e == 'E') && isDots n rest
  | _ + 1, _ :: _ => false

/-- Takes the steps of a path after those taken so far, the last of which comes first. One dot
stays and two dots go up; at the end both leave a slash. -/
def walk (taken : List (List Char)) : List (List Char) → List (List Char)
  | [] => taken.reverse
  | p :: rest =>
    let taken :=
      if isDots 2 p then taken.drop 1 else if isDots 1 p then taken else escape pathEscapes p :: taken
    if rest.isEmpty && (isDots 1 p || isDots 2 p) then walk ([] :: taken) rest else walk taken rest

def path (cs : List Char) : List Char :=
  let cs := if cs.head? = some '/' ∨ cs.head? = some '\\' then cs.drop 1 else cs
  (walk [] (parts cs)).flatMap ('/' :: ·)

def isHost (c : Char) : Bool :=
  0x20 < c.toNat && !"#%/:<>?@[\\]^|\x7f".toList.contains c || c == ':'

/-- The address that a text spells, if it is one of the web. A fragment is left out. -/
def parse? (text : String) : Option Url :=
  let cs := text.toList.filter fun c => c != '\t' && c != '\n' && c != '\r'
  let cs := cs.dropWhile fun c => c.toNat ≤ 0x20
  let scheme := String.ofList ((cs.takeWhile (· != ':')).map Text.asciiSmall)
  if scheme = "http" ∨ scheme = "https" then
    let rest := ((cs.dropWhile (· != ':')).drop 1).dropWhile fun c => c == '/' || c == '\\'
    let isEnd (c : Char) : Bool := "/\\?#".toList.contains c
    let authority := (rest.takeWhile (!isEnd ·)).reverse.takeWhile (· != '@') |>.reverse
    let rest := (rest.dropWhile (!isEnd ·)).takeWhile (· != '#')
    if authority.isEmpty || !authority.all isHost then none
    else
      let query :=
        match rest.dropWhile (· != '?') with
        | [] => []
        | _ :: q => '?' :: escape queryEscapes q
      some {
        authority := String.ofList (authority.map Text.asciiSmall)
        target := String.ofList (path (rest.takeWhile (· != '?')) ++ query) }
  else none

end Url

end Parley.Provider
