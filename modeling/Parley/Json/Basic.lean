/-! # JSON values and records

A value keeps its strings and numbers as they are written. A string that nobody reads may hold
escapes that name no character, and a number that nobody reads may be of any size; both are
checked when a text or a number is asked for. A record is written as an object or as the array of
its fields in their order. Members that are no field are passed over; a field may stand only once.
-/

namespace Parley

namespace Json

/-- One unit of a string: a symbol standing for itself, `none` being bytes that form no
character, or a four-digit escape of a UTF-16 code unit. -/
inductive Piece where
  | symbol (s : Option Char)
  | unit (code : Nat)
  deriving DecidableEq, Repr

end Json

inductive Json where
  | null
  | bool (b : Bool)
  | number (literal : List Char)
  | string (pieces : List Json.Piece)
  | array (items : List Json)
  | object (members : List (List Json.Piece × Json))
  deriving Inhabited, Repr

namespace Json

def piecesOf (s : String) : List Piece :=
  s.toList.map fun c => .symbol (some c)

def ofText (s : String) : Json :=
  .string (piecesOf s)

def ofNat (n : Nat) : Json :=
  .number (toString n).toList

def ofMembers (members : List (String × Json)) : Json :=
  .object (members.map fun m => (piecesOf m.1, m.2))

/-- The characters that pieces spell: two escapes may form one character, and an escape that
names half a character, or bytes that form none, leave no text. -/
def charsOf? : List Piece → Option (List Char)
  | [] => some []
  | .symbol (some c) :: rest => (charsOf? rest).map (c :: ·)
  | .symbol none :: _ => none
  | .unit hi :: .unit lo :: rest =>
    if 0xD800 ≤ hi ∧ hi ≤ 0xDBFF then
      if 0xDC00 ≤ lo ∧ lo ≤ 0xDFFF then
        (charsOf? rest).map
          (Char.ofNat (0x10000 + (hi - 0xD800) * 0x400 + (lo - 0xDC00)) :: ·)
      else none
    else if 0xDC00 ≤ hi ∧ hi ≤ 0xDFFF then none
    else (charsOf? (.unit lo :: rest)).map (Char.ofNat hi :: ·)
  | .unit code :: rest =>
    if 0xD800 ≤ code ∧ code ≤ 0xDFFF then none
    else (charsOf? rest).map (Char.ofNat code :: ·)

def textOf? (pieces : List Piece) : Option String :=
  (charsOf? pieces).map String.ofList

def text? : Json → Option String
  | .string pieces => textOf? pieces
  | _ => none

structure Field where
  name : String
  mayTrail : Bool := false

/-- The member of a name: `some none` if there is none, no answer if there are several. -/
def member? (members : List (String × Json)) (name : String) : Option (Option Json) :=
  match members.filter (·.1 == name) with
  | [] => some none
  | [m] => some (some m.2)
  | _ => none

def ofItems? : List Field → List Json → Option (List (Option Json))
  | [], [] => some []
  | [], _ :: _ => none
  | _ :: fields, j :: rest => (ofItems? fields rest).map (some j :: ·)
  | field :: fields, [] => if field.mayTrail then (ofItems? fields []).map (none :: ·) else none

/-- The values of the fields of a record, `none` for a missing one. All names in an object must
be texts. -/
def record? (fields : List Field) : Json → Option (List (Option Json))
  | .object members => do
    let named ← members.mapM fun m => (textOf? m.1).map (·, m.2)
    fields.mapM fun field => member? named field.name
  | .array items => ofItems? fields items
  | _ => none

def required? (read : Json → Option α) : Option Json → Option α
  | some j => read j
  | none => none

def optional? (read : Json → Option α) : Option Json → Option (Option α)
  | none => some none
  | some .null => some none
  | some j => (read j).map some

end Json

end Parley
