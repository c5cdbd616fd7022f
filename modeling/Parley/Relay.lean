import Parley.Archive
import Parley.Channel

/-! # The relay

A relay stands between the generator of a streamed reply and its reader. It passes every increment
on, gathers the text, and records the whole reply once. A finished reply is recorded before its
last increment is passed on; a failure is passed on first.

The relay moves in single steps. Between two steps the generator may send, the reader may receive
or leave, and the turn may be cancelled.
-/

namespace Parley

/-- What becomes of the text of a stream that fails. -/
inductive PartialPolicy where
  | discard
  | persist
  deriving DecidableEq, Repr, Inhabited

namespace Relay

inductive Outcome where
  | completed (text : String) (persisted : Bool)
  | hungUp (text : String) (persisted : Bool)
  | failed (persisted : Bool)
  | cancelled
  deriving DecidableEq, Repr

inductive Stage where
  | awaiting
  | holding (increment : Increment)
  /-- It passes an increment on; of a last increment it knows whether the reply was recorded. -/
  | forwarding (increment : Increment) (persisted : Bool)
  | broken
  | hungUp
  /-- It knows how it ends, and lets go of both channels. -/
  | closing (outcome : Outcome)
  | ended (outcome : Outcome)
  deriving DecidableEq, Repr

end Relay

/-- A relay with the channels on both sides. -/
structure Relay where
  session : SessionId
  policy : PartialPolicy
  source : Channel Increment
  sink : Channel Increment
  /-- The relay has found out that the reader left, and drains the source without it. -/
  readerGone : Bool := false
  /-- The text received so far. -/
  text : String := ""
  stage : Relay.Stage := .awaiting
  deriving DecidableEq

namespace Relay

def between (session : SessionId) (policy : PartialPolicy) (source sink : Channel Increment) :
    Relay :=
  { session, policy, source, sink }

def outcome? (r : Relay) : Option Outcome :=
  match r.stage with
  | .ended outcome => some outcome
  | _ => none

/-- Records a reply; the answer tells whether it was kept. -/
def record (r : Relay) (a : Archive) (text : String) : Bool × Archive :=
  match a.append r.session .assistant text with
  | (.ok _, a) => (true, a)
  | (.error _, a) => (false, a)

/-- Waits for the generator, or for the cancellation of the turn, which is seen first. -/
def await (cancelled : Bool) (r : Relay) : Option Relay :=
  if cancelled then some { r with stage := .closing .cancelled }
  else
    match r.source.receive with
    | .item i source => some { r with source, stage := .holding i }
    | .empty => none
    | .closed => some { r with stage := .hungUp }

/-- Gathers the text of an increment, and records the reply with the last one. -/
def gather (r : Relay) (a : Archive) (i : Increment) : Relay × Archive :=
  if i.isError then ({ r with stage := .forwarding i false }, a)
  else
    let text := r.text ++ i.text
    if i.isLast then
      let (persisted, a) := r.record a text
      ({ r with text, stage := .forwarding i persisted }, a)
    else ({ r with text, stage := .forwarding i false }, a)

/-- The reader was offered an increment: it has it, or it is gone. -/
def passed (r : Relay) (i : Increment) (persisted : Bool) : Relay :=
  if i.isError then { r with stage := .broken }
  else if i.isLast then { r with stage := .closing (.completed r.text persisted) }
  else { r with stage := .awaiting }

/-- The turn was cancelled while an increment was passed on. A reply that is recorded stays. -/
def withdrawn (r : Relay) (i : Increment) (persisted : Bool) : Relay :=
  if i.isLast then { r with stage := .closing (.completed r.text persisted) }
  else { r with stage := .closing .cancelled }

/-- Passes an increment on. Cancellation is seen first, but not on the way to a reader that is
known to be gone. -/
def forward (cancelled : Bool) (r : Relay) (i : Increment) (persisted : Bool) : Option Relay :=
  if r.readerGone then some (r.passed i persisted)
  else if cancelled then some (r.withdrawn i persisted)
  else
    match r.sink.send i with
    | .sent sink => some ({ r with sink }.passed i persisted)
    | .closed =>
      some ({ r with readerGone := true, sink := r.sink.closeSender }.passed i persisted)
    | .full => none

/-- Keeps the text of a stream that failed, if there is any and the policy says so. -/
def keepPartial (r : Relay) (a : Archive) : Relay × Archive :=
  if r.policy = .persist ∧ r.text ≠ "" then
    let (persisted, a) := r.record a r.text
    ({ r with stage := .closing (.failed persisted) }, a)
  else ({ r with stage := .closing (.failed false) }, a)

/-- Keeps the text of a stream that the generator left. -/
def keepRest (r : Relay) (a : Archive) : Relay × Archive :=
  let (persisted, a) := r.record a r.text
  ({ r with stage := .closing (.hungUp r.text persisted) }, a)

def finish (r : Relay) (outcome : Outcome) : Relay :=
  { r with
    source := r.source.closeReceiver
    sink := r.sink.closeSender
    stage := .ended outcome }

/-- One step of the relay; none if it has to wait or has ended. -/
def step (cancelled : Bool) (r : Relay) (a : Archive) : Option (Relay × Archive) :=
  match r.stage with
  | .awaiting => (r.await cancelled).map (·, a)
  | .holding i => some (r.gather a i)
  | .forwarding i persisted => (r.forward cancelled i persisted).map (·, a)
  | .broken => some (r.keepPartial a)
  | .hungUp => some (r.keepRest a)
  | .closing outcome => some (r.finish outcome, a)
  | .ended _ => none

/-- A bound on the steps that a relay can make before it has to wait. -/
def stepsLeft (r : Relay) : Nat :=
  3 * r.source.items.length +
    match r.stage with
    | .ended _ => 0
    | .closing _ => 1
    | .broken | .hungUp => 2
    | .awaiting => 3
    | .forwarding .. => 4
    | .holding _ => 5

def steps (cancelled : Bool) : Nat → Relay → Archive → Relay × Archive
  | 0, r, a => (r, a)
  | n + 1, r, a =>
    match r.step cancelled a with
    | some (r, a) => steps cancelled n r a
    | none => (r, a)

/-- Runs the relay until it has to wait or has ended. -/
def settle (cancelled : Bool) (r : Relay) (a : Archive) : Relay × Archive :=
  steps cancelled r.stepsLeft r a

end Relay

end Parley
