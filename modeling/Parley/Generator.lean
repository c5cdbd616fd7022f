import Parley.Channel
import Parley.Message

/-! # Generators

A generator turns messages into a reply, at once or as a stream. What it will do at each call is
laid down beforehand in a performance, with its pauses; the calls made are kept.
-/

namespace Parley

inductive Delivery where
  | blocking
  | streaming
  deriving DecidableEq, Repr

structure Call where
  delivery : Delivery
  messages : List Message
  deriving DecidableEq, Repr

/-- Something that happens to the session while a generator works. -/
inductive Signal where
  | interrupt
  | cancel
  deriving DecidableEq, Repr

inductive WholePlan where
  | reply (text : String)
  | failure (e : Error)
  | silence
  deriving DecidableEq, Repr

structure StreamPlan where
  capacity : Nat
  increments : List (Nat × Increment)
  /-- The pause before it leaves. -/
  hangUpAfter : Nat := 0
  lingers : Bool := false
  deriving DecidableEq, Repr

structure Performance where
  delay : Nat := 0
  /-- It gives up at once when it is cancelled before it answers. -/
  heedsCancel : Bool := true
  signals : List (Nat × Signal) := []
  whole : WholePlan
  streamed : Except Error StreamPlan

/-- A generator with its calls so far and its performances to come. -/
structure Generator where
  script : List Performance := []
  calls : List Call := []

namespace Generator

/-- The error of a generator that has nothing more to perform. -/
def exhausted : Error :=
  .generation "script exhausted" .none

def cancelled : Error :=
  .cancelled "request cancelled"

/-- What a generator does that has nothing more to perform. -/
def encore : Performance :=
  { heedsCancel := false, whole := .failure exhausted, streamed := .error exhausted }

/-- Calls the generator, which takes up its next performance. -/
def call (g : Generator) (delivery : Delivery) (messages : List Message) :
    Performance × Generator :=
  let calls := g.calls ++ [{ delivery := delivery, messages := messages }]
  match g.script with
  | [] => (encore, { g with calls })
  | p :: script => (p, { script, calls })

@[simp] theorem calls_call (g : Generator) (delivery : Delivery) (messages : List Message) :
    (g.call delivery messages).2.calls =
      g.calls ++ [{ delivery := delivery, messages := messages }] := by
  rw [call]
  split <;> rfl

end Generator

namespace Performance

/-- What the generator answers when asked for a whole reply; none while it is silent. -/
def reply? (p : Performance) (due now : Nat) (cancelled : Bool) : Option (Except Error String) :=
  if cancelled && p.heedsCancel then some (.error Generator.cancelled)
  else if now < due then none
  else
    match p.whole with
    | .reply text => some (.ok text)
    | .failure e => some (.error e)
    | .silence => if cancelled then some (.error Generator.cancelled) else none

def stream? (p : Performance) (due now : Nat) (cancelled : Bool) :
    Option (Except Error StreamPlan) :=
  if cancelled && p.heedsCancel then some (.error Generator.cancelled)
  else if now < due then none
  else some p.streamed

end Performance

/-- The sending side of a stream under way. -/
structure Feed where
  increments : List (Nat × Increment)
  /-- The time before which nothing happens. -/
  due : Nat
  hangUpAfter : Nat
  lingers : Bool
  deriving DecidableEq, Repr

namespace Feed

def pause (increments : List (Nat × Increment)) (hangUpAfter : Nat) : Nat :=
  match increments with
  | (ms, _) :: _ => ms
  | [] => hangUpAfter

def start (p : StreamPlan) (now : Nat) : Feed :=
  { increments := p.increments
    due := now + pause p.increments p.hangUpAfter
    hangUpAfter := p.hangUpAfter
    lingers := p.lingers }

end Feed

end Parley
