import Parley.Json.Basic
import Parley.SessionId
import Parley.Timestamp

/-! # Messages and transcripts

A transcript is the record of one session: its identifier, the moment it was opened, and its
messages in the order they were said.
-/

namespace Parley

inductive Role where
  | user
  | assistant
  deriving DecidableEq, Repr

namespace Role

def name : Role → String
  | .user => "user"
  | .assistant => "assistant"

def ofName? (name : String) : Option Role :=
  if name = "user" then some .user
  else if name = "assistant" then some .assistant
  else none

def toJson (r : Role) : Json :=
  .ofText r.name

/-- Reads a role: its name, or an object with its name as the only member, which is null. -/
def ofJson? : Json → Option Role
  | .object [(key, .null)] => (Json.textOf? key).bind ofName?
  | j => j.text?.bind ofName?

end Role

structure Message where
  role : Role
  text : String
  generatedAt : Timestamp
  deriving DecidableEq, Repr

namespace Message

def isUser (m : Message) : Bool :=
  m.role = .user

def toJson (m : Message) : Json :=
  .ofMembers [("role", m.role.toJson), ("text", .ofText m.text),
    ("generated_at", .ofText m.generatedAt.text)]

def ofJson? (j : Json) : Option Message := do
  match ← j.record? [{ name := "role" }, { name := "text" }, { name := "generated_at" }] with
  | [role, text, generatedAt] =>
    let role ← Json.required? Role.ofJson? role
    let text ← Json.required? Json.text? text
    let generatedAt ← Json.required? (fun j => j.text?.bind Timestamp.parse?) generatedAt
    return { role, text, generatedAt }
  | _ => none

end Message

structure Transcript where
  id : SessionId
  createdAt : Timestamp
  messages : List Message
  deriving DecidableEq

namespace Transcript

/-- The number of completed exchanges: an exchange is complete when it has its reply. -/
def turnCount (t : Transcript) : Nat :=
  t.messages.countP (·.role = .assistant)

def pairs (t : Transcript) : List (Role × String) :=
  t.messages.map fun m => (m.role, m.text)

def extend (t : Transcript) (ms : List Message) : Transcript :=
  { t with messages := t.messages ++ ms }

@[simp] theorem extend_nil (t : Transcript) : t.extend [] = t := by
  simp [extend]

@[simp] theorem extend_extend (t : Transcript) (ms ns : List Message) :
    (t.extend ms).extend ns = t.extend (ms ++ ns) := by
  simp [extend]

@[simp] theorem pairs_extend (t : Transcript) (ms : List Message) :
    (t.extend ms).pairs = t.pairs ++ ms.map fun m => (m.role, m.text) := by
  simp [pairs, extend]

def toJson (t : Transcript) : Json :=
  .ofMembers [("id", .ofText t.id.text), ("created_at", .ofText t.createdAt.text),
    ("messages", .array (t.messages.map Message.toJson))]

def ofJson? (j : Json) : Option Transcript := do
  match ← j.record? [{ name := "id" }, { name := "created_at" }, { name := "messages" }] with
  | [id, createdAt, messages] =>
    let id ← Json.required? (fun j => j.text?.bind SessionId.parse?) id
    let createdAt ← Json.required? (fun j => j.text?.bind Timestamp.parse?) createdAt
    match messages with
    | some (.array items) => return { id, createdAt, messages := ← items.mapM Message.ofJson? }
    | _ => none
  | _ => none

end Transcript

end Parley
