import Parley.Channel
import Parley.Provider.EventStream

/-! # The pump

The pump turns the events of a provider into the increments of a streamed reply. It stops after
the increment that ends the reply, when the events end, when nobody listens and when the turn is
cancelled, and moves in single steps.
-/

namespace Parley.Provider

namespace Pump

def broke (e : Error) : Error :=
  .stream "provider stream broke" (.error e)

def reported (kind : Option String) (message : String) : Error :=
  .stream message (.error (.api 200 kind message none))

/-- The increment that an event stands for; most events stand for none. -/
def increment? : Item → Option Increment
  | .ok (.textDelta text) => some (.ofText text)
  | .ok .messageStop => some (.last "")
  | .ok (.error kind message) => some (.failed (reported kind message))
  | .ok _ => none
  | .error e => some (.failed (broke e))

/-- The increments of a list of events, up to the one that ends the reply. -/
def increments : List Item → List Increment
  | [] => []
  | x :: rest =>
    match increment? x with
    | none => increments rest
    | some i => if i.isTerminal then [i] else i :: increments rest

inductive Stage where
  | awaiting
  | sending (i : Increment)
  | ended
  deriving DecidableEq, Repr

end Pump

structure Pump where
  items : List Item
  sink : Channel Increment
  stage : Pump.Stage := .awaiting

namespace Pump

def start (items : List Item) (capacity : Nat) : Pump :=
  { items, sink := .ofCapacity capacity }

def finish (p : Pump) : Pump :=
  { p with sink := p.sink.closeSender, stage := .ended }

/-- One step of the pump; none if it has to wait or has ended. Cancellation is seen before the
next event, but not while an increment waits for room. -/
def step (cancelled : Bool) (p : Pump) : Option Pump :=
  match p.stage with
  | .ended => none
  | .awaiting =>
    if cancelled then some p.finish
    else
      match p.items with
      | [] => some p.finish
      | x :: items =>
        match increment? x with
        | none => some { p with items }
        | some i => some { p with items, stage := .sending i }
  | .sending i =>
    match p.sink.send i with
    | .sent sink =>
      if i.isTerminal then some { p with sink }.finish else some { p with sink, stage := .awaiting }
    | .closed => some p.finish
    | .full => none

/-- What a reader receives who reads on to the end, in at most `n` steps of both. -/
def received : Nat → Pump → List Increment
  | 0, _ => []
  | n + 1, p =>
    match p.step false with
    | some p => received n p
    | none =>
      match p.sink.receive with
      | .item i sink => i :: received n { p with sink }
      | .empty | .closed => []

/-- A bound on the steps that a pump and its reader can make. -/
def stepsLeft (p : Pump) : Nat :=
  3 * p.items.length + p.sink.items.length + 3

/-- What a reader receives who reads on to the end. -/
def drain (p : Pump) : List Increment :=
  received p.stepsLeft p

end Pump

end Parley.Provider
