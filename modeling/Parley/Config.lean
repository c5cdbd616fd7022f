import Parley.Service

/-! # Configuration

How a chat is set up. A configuration is valid if what has to be positive is positive.
-/

namespace Parley

structure Config where
  displayName : String := "You"
  assistantName : String := "Assistant"
  streaming : Bool := true
  model : String := "claude-haiku-4-5"
  systemPrompt : Option String := none
  maxTokens : Nat := 4096
  colored : Bool := true
  context : ContextPolicy := .currentTurn
  partialStream : PartialPolicy := .discard
  streamCapacity : Nat := 64
  /-- Milliseconds between two frames of the thinking indicator. -/
  indicatorInterval : Nat := 100
  baseUrl : Option String := none
  /-- Seconds that a request may take. -/
  requestTimeout : Nat := 60
  deriving DecidableEq, Repr, Inhabited

namespace Config

def withDisplayName (c : Config) (name : String) : Config :=
  { c with displayName := name }

def withStreaming (c : Config) (streaming : Bool) : Config :=
  { c with streaming }

def withModel (c : Config) (model : String) : Config :=
  { c with model }

def withSystemPrompt (c : Config) (prompt : String) : Config :=
  { c with systemPrompt := some prompt }

def withMaxTokens (c : Config) (maxTokens : Nat) : Config :=
  { c with maxTokens }

def withoutColor (c : Config) : Config :=
  { c with colored := false }

def withContext (c : Config) (context : ContextPolicy) : Config :=
  { c with context }

def withPartialStream (c : Config) (partialStream : PartialPolicy) : Config :=
  { c with partialStream }

def withIndicatorInterval (c : Config) (ms : Nat) : Config :=
  { c with indicatorInterval := ms }

def options (c : Config) : Options :=
  { context := c.context, partialStream := c.partialStream, streamCapacity := c.streamCapacity }

inductive Setting where
  | maxTokens
  | streamCapacity
  | indicatorInterval
  deriving DecidableEq, Repr

def Setting.name : Setting → String
  | .maxTokens => "max_tokens"
  | .streamCapacity => "stream_capacity"
  | .indicatorInterval => "indicator_interval_ms"

def Setting.notPositive (s : Setting) : Error :=
  .config (s.name ++ " must be positive") (some s.name)

/-- The settings that have to be positive, with their values, in the order of checking. -/
def checked (c : Config) : List (Setting × Nat) :=
  [(.maxTokens, c.maxTokens), (.streamCapacity, c.streamCapacity),
    (.indicatorInterval, c.indicatorInterval)]

def fault? (c : Config) : Option Setting :=
  (c.checked.find? (·.2 == 0)).map (·.1)

def validate (c : Config) : Except Error Config :=
  match c.fault? with
  | some s => .error s.notPositive
  | none => .ok c

theorem fault?_eq_none_iff {c : Config} :
    c.fault? = none ↔ 0 < c.maxTokens ∧ 0 < c.streamCapacity ∧ 0 < c.indicatorInterval := by
  simp [fault?, checked, Nat.pos_iff_ne_zero]

theorem validate_eq_ok_iff {c d : Config} : c.validate = .ok d ↔ c.fault? = none ∧ c = d := by
  rw [validate]
  split <;> simp_all

end Config

end Parley
