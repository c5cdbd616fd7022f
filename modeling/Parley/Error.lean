import Parley.Number
import Parley.Text.Utf8

/-! # Errors

Everything that can go wrong in a chat, from a full store to a provider that refuses a request.
An error may carry the cause that led to it; the causes form a chain. Each error has one wording.
-/

namespace Parley

mutual

inductive Error where
  | historyWrite (message : String) (unsavedReply : Option String) (cause : Cause)
  | generation (message : String) (cause : Cause)
  | stream (message : String) (cause : Cause)
  | input (message : String) (cause : Cause)
  | notFound (message : String) (session : Option String)
  | storage (message : String)
  | cancelled (message : String)
  | config (message : String) (setting : Option String)
  | api (status : Nat) (kind : Option String) (message : String) (requestId : Option String)
  | authentication (message : String)
  | rateLimit (message : String) (retryAfter : Option Nat)
  | timeout (message : String) (seconds : Option Double)
  | connection (message : String) (cause : Cause)
  | serialization (message : String) (cause : Cause)
  | io (message : String) (cause : Cause)
  | httpClient (message : String) (cause : Cause)
  deriving DecidableEq, Repr

inductive Cause where
  | none
  | error (e : Error)
  /-- A plain text, with no cause of its own. -/
  | text (message : String)
  /-- A failure inside a format or a transport, in words that are not fixed. -/
  | foreign (message : String)
  deriving DecidableEq, Repr

end

instance : Inhabited Error := ⟨.storage ""⟩

instance : Inhabited Cause := ⟨.none⟩

mutual

def Error.message : Error → String
  | .historyWrite m _ _ => "History write error: " ++ m
  | .generation m cause =>
    "Generation error: " ++ m ++
      match cause.message? with
      | some text => ": " ++ text
      | none => ""
  | .stream m _ => "Stream error: " ++ m
  | .input m _ => "Input error: " ++ m
  | .notFound m session =>
    "Session not found: " ++ m ++
      match session with
      | some id => " [ID: " ++ id ++ "]"
      | none => ""
  | .storage m => "Storage error: " ++ m
  | .cancelled m => "Cancelled: " ++ m
  | .config m setting =>
    "Configuration error: " ++ m ++
      match setting with
      | some name => " (setting: " ++ name ++ ")"
      | none => ""
  | .api _ kind m requestId =>
    kind.getD "API error" ++ ": " ++ m ++
      match requestId with
      | some id => " (Request ID: " ++ id ++ ")"
      | none => ""
  | .authentication m => "Authentication error: " ++ m
  | .rateLimit m retryAfter =>
    "Rate limit exceeded: " ++ m ++
      match retryAfter with
      | some n => " (retry after " ++ toString n ++ " seconds)"
      | none => ""
  | .timeout m seconds =>
    "Timeout error: " ++ m ++
      match seconds with
      | some s => " (" ++ s.text ++ " seconds)"
      | none => ""
  | .connection m _ => "Connection error: " ++ m
  | .serialization m _ => "Serialization error: " ++ m
  | .io m _ => "I/O error: " ++ m
  | .httpClient m _ => "HTTP client error: " ++ m

def Cause.message? : Cause → Option String
  | .none => none
  | .error e => some e.message
  | .text m => some m
  | .foreign m => some m

end

namespace Error

def cause : Error → Cause
  | .historyWrite _ _ cause | .generation _ cause | .stream _ cause | .input _ cause
  | .connection _ cause | .serialization _ cause | .io _ cause | .httpClient _ cause => cause
  | _ => .none

mutual

/-- The chain of causes, the nearest first. -/
def causes : Error → List Cause
  | .historyWrite _ _ cause => causeChain cause
  | .generation _ cause => causeChain cause
  | .stream _ cause => causeChain cause
  | .input _ cause => causeChain cause
  | .connection _ cause => causeChain cause
  | .serialization _ cause => causeChain cause
  | .io _ cause => causeChain cause
  | .httpClient _ cause => causeChain cause
  | _ => []

def causeChain : Cause → List Cause
  | .none => []
  | .error e => .error e :: causes e
  | c => [c]

end

def isHistoryWrite : Error → Bool
  | .historyWrite .. => true
  | _ => false

def isGeneration : Error → Bool
  | .generation .. => true
  | _ => false

def isStream : Error → Bool
  | .stream .. => true
  | _ => false

def isInput : Error → Bool
  | .input .. => true
  | _ => false

def isNotFound : Error → Bool
  | .notFound .. => true
  | _ => false

def isCancelled : Error → Bool
  | .cancelled _ => true
  | _ => false

def isConfig : Error → Bool
  | .config .. => true
  | _ => false

def isAuthentication : Error → Bool
  | .authentication _ => true
  | _ => false

/-- The reply that was generated but could not be saved. -/
def unsavedReply? : Error → Option String
  | .historyWrite _ reply _ => reply
  | _ => none

def status? : Error → Option Nat
  | .api status .. => some status
  | _ => none

def ofIo (text : String) : Error :=
  .io text (.text text)

def malformedJson : Error :=
  .serialization "JSON error: malformed document" (.foreign "malformed document")

def malformedYaml : Error :=
  .serialization "YAML error: malformed document" (.foreign "malformed document")

def ofUtf8 (fault : Utf8.Fault) : Error :=
  .serialization ("UTF-8 error: " ++ fault.message) (.text fault.message)

end Error

end Parley
