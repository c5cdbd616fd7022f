import Parley.Display

/-! # The thinking indicator

While a turn is under way a little mark turns at the cursor, one frame a tick. The indicator ends
when it is let go or the turn is cancelled, and erases its frame on the way out.
-/

namespace Parley

namespace Indicator

inductive Stage where
  | fresh
  | ticking (due : Nat)
  | ended
  deriving DecidableEq, Repr

end Indicator

/-- An indicator that draws a frame every `interval` milliseconds. -/
structure Indicator where
  interval : Nat
  released : Bool := false
  frames : Nat := 0
  stage : Indicator.Stage := .fresh
  deriving DecidableEq, Repr

namespace Indicator

def marks : List String :=
  ["⠋", "⠙", "⠹", "⠸", "⠼", "⠴", "⠦", "⠧", "⠇", "⠏"]

def mark (n : Nat) : String :=
  marks.getD (n % marks.length) ""

def release (i : Indicator) : Indicator :=
  { i with released := true }

def hasEnded (i : Indicator) : Bool :=
  i.stage = .ended

/-- Draws a frame. The next one is due at the first tick that is still to come. -/
def drawFrame (i : Indicator) (due now : Nat) : Indicator × List Drawing :=
  ({ i with
      frames := i.frames + 1
      stage := .ticking (due + i.interval * ((now - due) / i.interval + 1)) },
    [.frame (mark i.frames)])

def finish (i : Indicator) : Indicator × List Drawing :=
  ({ i with stage := .ended }, [.clearThinking])

/-- One step of the indicator: what it draws, or nothing if it has to wait or has ended. Without
an interval it fails at its start and draws nothing. -/
def step (i : Indicator) (now : Nat) (cancelled : Bool) : Option (Indicator × List Drawing) :=
  match i.stage with
  | .ended => none
  | .fresh =>
    if i.interval = 0 then some ({ i with stage := .ended }, [])
    else if i.released || cancelled then some i.finish
    else some (i.drawFrame now now)
  | .ticking due =>
    if i.released || cancelled then some i.finish
    else if due ≤ now then some (i.drawFrame due now)
    else none

/-- Runs the indicator until a moment, in at most `n` steps. -/
def runUntil (moment : Nat) (cancelled : Bool) : Nat → Nat → Indicator → Indicator × List Drawing
  | 0, _, i => (i, [])
  | n + 1, now, i =>
    match i.step now cancelled with
    | some (i, drawn) =>
      let (i, more) := runUntil moment cancelled n now i
      (i, drawn ++ more)
    | none =>
      match i.stage with
      | .ticking due => if due ≤ moment then runUntil moment cancelled n due i else (i, [])
      | _ => (i, [])

/-- Lets some milliseconds pass. Each takes two steps at most, a wait and a frame. -/
def advance (i : Indicator) (now ms : Nat) (cancelled : Bool) : Indicator × List Drawing :=
  runUntil (now + ms) cancelled (2 * ms + 3) now i

end Indicator

end Parley
