import Parley.Proofs.Relay.Step
import Parley.Proofs.Runs

/-! # A relay at work

A relay with the generator before it, the reader behind it, and the turn that may be cancelled. The
four act in any order: the generator sends what it has to send and leaves, the relay makes its
steps, the reader receives or leaves, and the cancellation may come between any two acts.
-/

namespace Parley.Relay

/-- A relay with a generator and a reader, and with what they have seen so far. -/
structure Scene where
  relay : Relay
  archive : Archive
  unsent : List Increment
  cancelled : Bool := false
  taken : List Increment := []
  received : List Increment := []
  sawEnd : Bool := false

namespace Scene

inductive Act where
  | send
  | hangUp
  | relay
  | receive
  | leave
  | cancel
  deriving DecidableEq, Repr

def start (session : SessionId) (policy : PartialPolicy) (sourceRoom sinkRoom : Nat)
    (archive : Archive) (increments : List Increment) : Scene where
  relay := .between session policy (.ofCapacity sourceRoom) (.ofCapacity sinkRoom)
  archive := archive
  unsent := increments

/-- The generator sends its next increment; it leaves if nobody listens. -/
def send (w : Scene) : Option Scene :=
  match w.unsent with
  | [] => none
  | i :: rest =>
    match w.relay.source.send i with
    | .sent source => some { w with unsent := rest, relay := { w.relay with source } }
    | .closed =>
      some { w with relay := { w.relay with source := w.relay.source.closeSender } }
    | .full => none

def hangUp (w : Scene) : Option Scene :=
  match w.unsent with
  | [] => some { w with relay := { w.relay with source := w.relay.source.closeSender } }
  | _ :: _ => none

def receive (w : Scene) : Option Scene :=
  if w.relay.sink.receiverOpen then
    match w.relay.sink.receive with
    | .item i sink =>
      some { w with received := w.received ++ [i], relay := { w.relay with sink } }
    | .closed => some { w with sawEnd := true }
    | .empty => none
  else none

/-- The relay has made a step. What it got hold of while it was waiting is taken. -/
def stepped (w : Scene) (r : Relay) (a : Archive) : Scene :=
  { w with
    relay := r
    archive := a
    taken := w.taken ++ if w.relay.stage = .awaiting then r.stage.inHand else [] }

/-- One act; none if it is not possible at the moment. -/
def step (w : Scene) : Act → Option Scene
  | .send => w.send
  | .hangUp => w.hangUp
  | .relay =>
    (w.relay.step w.cancelled w.archive).map fun (r, a) => w.stepped r a
  | .receive => w.receive
  | .leave => some { w with relay := { w.relay with sink := w.relay.sink.closeReceiver } }
  | .cancel => some { w with cancelled := true }

def play (w : Scene) (acts : List Act) : Option Scene :=
  acts.foldlM step w

inductive Next (w : Scene) : Scene → Prop where

  | send {i : Increment} {rest : List Increment} {source : Channel Increment} :
      w.unsent = i :: rest → w.relay.source.send i = .sent source →
      Next w { w with unsent := rest, relay := { w.relay with source } }

  | giveUp {i : Increment} : w.relay.source.send i = .closed →
      Next w { w with relay := { w.relay with source := w.relay.source.closeSender } }

  | hangUp : w.unsent = [] →
      Next w { w with relay := { w.relay with source := w.relay.source.closeSender } }

  | relay {r : Relay} {a : Archive} : Move w.cancelled w.relay w.archive r a →
      Next w (w.stepped r a)

  | receive {i : Increment} {sink : Channel Increment} : w.relay.sink.receiverOpen = true →
      w.relay.sink.receive = .item i sink →
      Next w { w with received := w.received ++ [i], relay := { w.relay with sink } }

  | seeEnd : w.relay.sink.receiverOpen = true → w.relay.sink.receive = .closed →
      Next w { w with sawEnd := true }

  | leave : Next w { w with relay := { w.relay with sink := w.relay.sink.closeReceiver } }

  | cancel : Next w { w with cancelled := true }

variable {w w' : Scene}

theorem next_of_step {act : Act} (h : w.step act = some w') : Next w w' := by
  cases act with
  | send =>
    simp only [step, Scene.send] at h
    split at h
    · cases h
    · split at h
      · obtain rfl := Option.some.inj h
        exact .send ‹_› ‹_›
      · obtain rfl := Option.some.inj h
        exact .giveUp ‹_›
      · cases h
  | hangUp =>
    simp only [step, Scene.hangUp] at h
    split at h
    · obtain rfl := Option.some.inj h
      exact .hangUp ‹_›
    · cases h
  | relay =>
    obtain ⟨⟨r, a⟩, hs, rfl⟩ := Option.map_eq_some_iff.mp h
    exact .relay (step_move hs)
  | receive =>
    simp only [step, Scene.receive] at h
    split at h
    · split at h
      · obtain rfl := Option.some.inj h
        exact .receive ‹_› ‹_›
      · obtain rfl := Option.some.inj h
        exact .seeEnd ‹_› ‹_›
      · cases h
    · cases h
  | leave =>
    obtain rfl := Option.some.inj h
    exact .leave
  | cancel =>
    obtain rfl := Option.some.inj h
    exact .cancel

theorem keeps_play {P : Scene → Prop} (h : ∀ {w w'}, P w → Next w w' → P w') {acts : List Act}
    (hp : w.play acts = some w') (hw : P w) : P w' :=
  keeps_foldlM (fun _ hw hs => h hw (next_of_step hs)) hp hw

end Scene

end Parley.Relay
