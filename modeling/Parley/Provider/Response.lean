import Parley.Number
import Parley.Provider.EventStream
import Parley.Provider.MediaType
import Parley.Text.Encoding.Label

/-! # Responses

What comes back for a request: a response with its headers and its body, which may break off, or
nothing. A status from 200 to 299 is a success, and any other an error that the body describes.
-/

namespace Parley.Provider

structure Response where
  status : Nat := 200
  headers : List (String × String) := []
  chunks : List (List UInt8) := []
  broken : Bool := false
  deriving DecidableEq, Repr

inductive Answer where
  | response (r : Response)
  | silence
  | closed
  | refused
  deriving DecidableEq, Repr

namespace Response

def isSuccess (r : Response) : Bool :=
  200 ≤ r.status && r.status < 300

def hasBody (r : Response) : Bool :=
  200 ≤ r.status && r.status ≠ 204 && r.status ≠ 304

/-- The pieces of the body, none of them empty. -/
def pieces (r : Response) : List (List UInt8) :=
  if r.hasBody then r.chunks.filter (!·.isEmpty) else []

def breaksOff (r : Response) : Bool :=
  r.hasBody && r.broken

/-- The whole body; none if it breaks off. -/
def body? (r : Response) : Option (List UInt8) :=
  if r.breaksOff then none else some r.pieces.flatten

def isHeaderText (c : Char) : Bool :=
  c == '\t' || (0x20 ≤ c.toNat && c.toNat < 0x7F)

def headerText (value : String) : String :=
  let isBlank (c : Char) : Bool := c == ' ' || c == '\t'
  String.ofList ((value.toList.dropWhile isBlank).reverse.dropWhile isBlank).reverse

/-- The first header of a name, in which case does not count. -/
def header? (r : Response) (name : String) : Option String :=
  (r.headers.find? fun h => Text.eqIgnoringAsciiCase h.1.toList name.toList).map
    fun h => headerText h.2

def readable? (value : String) : Option String :=
  if value.toList.all isHeaderText then some value else none

def requestId? (r : Response) : Option String :=
  (r.header? "request-id" <|> r.header? "x-request-id").bind readable?

def retryAfter? (r : Response) : Option Nat :=
  ((r.header? "retry-after").bind readable?).bind (Numeral.read? maxWord64)

/-- The encoding of a body that is read as text. One that is not told, or not known, is UTF-8. -/
def encoding (r : Response) : Text.Encoding :=
  (do
    let value ← (r.header? "content-type").bind readable?
    let label ← (← MediaType.parse? value).parameter? "charset"
    Text.Encoding.ofLabel? label).getD .utf8

def detail? (body : List Char) : Option ErrorDetail := do
  match ← (← Json.ofSymbols? (body.map some)).record? [{ name := "error" }] with
  | [detail] => (Json.optional? ErrorDetail.ofJson? detail).join
  | _ => none

/-- The error that a response with its body stands for. Where the body describes no error, it is
the message itself. -/
def errorOf (r : Response) (body : List Char) : Error :=
  let detail := (detail? body).getD { kind := none, message := none }
  let message := detail.message.getD (String.ofList body)
  match r.status with
  | 401 => .authentication message
  | 408 => .timeout message none
  | 429 => .rateLimit message r.retryAfter?
  | status => .api status detail.kind message r.requestId?

def failure (r : Response) : Error :=
  match r.body? with
  | some bytes => r.errorOf (r.encoding.decode bytes)
  | none => .httpClient "Failed to read error response: body breaks off" (.foreign "body breaks off")

structure Block where
  kind : String
  text : Option String
  deriving DecidableEq, Repr

def Block.ofJson? (j : Json) : Option Block := do
  match ← j.record? [{ name := "type" }, { name := "text", mayTrail := true }] with
  | [kind, text] =>
    return { kind := ← Json.required? Json.text? kind
             text := ← Json.optional? Json.text? text }
  | _ => none

def blocks? (j : Json) : Option (List Block) :=
  match j with
  | .array items => items.mapM Block.ofJson?
  | _ => none

/-- The blocks in the body of a response; none in a body that does not mention them. -/
def content? (body : List UInt8) : Option (List Block) := do
  match ← (← Json.ofBytes? body).record? [{ name := "content", mayTrail := true }] with
  | [some content] => blocks? content
  | [none] => some []
  | _ => none

/-- The text of some blocks, of which only those for text count. -/
def textOf (blocks : List Block) : String :=
  String.join ((blocks.filter (·.kind == "text")).filterMap (·.text))

def unparsable : Error :=
  .serialization "Failed to parse response: malformed document" (.foreign "malformed document")

def reply (r : Response) : Except Error String :=
  match r.body?.bind content? with
  | some blocks => .ok (textOf blocks)
  | none => .error unparsable

def stream (r : Response) : List Chunk :=
  r.pieces.map .bytes ++
    if r.breaksOff then
      [.failure "request or response body error: body breaks off" (.foreign "body breaks off")]
    else []

end Response

namespace Answer

/-- The response that came, or why there is none. Time is in milliseconds. -/
def response? (timeout : Nat) : Answer → Except Error Response
  | .response r => if r.isSuccess then .ok r else .error r.failure
  | .silence =>
    .error (.timeout "Request timed out: no response" (Double.ofDecimal? false timeout (-3)))
  | .closed => .error (.httpClient "Request failed: connection closed" (.foreign "connection closed"))
  | .refused =>
    .error (.connection "Connection error: connection refused" (.foreign "connection refused"))

def isReached : Answer → Bool
  | .refused => false
  | _ => true

end Answer

end Parley.Provider
