import Parley.Error

/-! # Increments and channels

A streamed reply arrives in increments: pieces of text, the last of which ends the reply, or a
failure. They pass through a channel, a bounded queue between a sender and a receiver, either of
which may leave. What the sender left in the queue can still be received; what nobody will receive
is dropped.
-/

namespace Parley

/-- A piece of a streamed reply. A piece with an error is a failure, whatever else it says. -/
structure Increment where
  text : String := ""
  done : Bool := false
  error : Option Error := none
  deriving DecidableEq, Repr, Inhabited

namespace Increment

def ofText (text : String) : Increment := { text }

def last (text : String) : Increment := { text, done := true }

def failed (e : Error) : Increment := { error := some e }

def isError (i : Increment) : Bool :=
  i.error.isSome

def isLast (i : Increment) : Bool :=
  i.done && !i.isError

def isTerminal (i : Increment) : Bool :=
  i.done || i.isError

end Increment

/-- A queue with room for `capacity` items. -/
structure Channel (α : Type) where
  capacity : Nat
  items : List α := []
  senderOpen : Bool := true
  receiverOpen : Bool := true
  deriving DecidableEq, Repr, Inhabited

namespace Channel

variable {α : Type}

/-- An empty channel. Every channel has room for one item at least. -/
def ofCapacity (capacity : Nat) : Channel α :=
  { capacity := max 1 capacity }

inductive Sent (α : Type) where
  | sent (c : Channel α)
  | full
  | closed

/-- Sends an item if the receiver is there and there is room. -/
def send (c : Channel α) (a : α) : Sent α :=
  if !c.receiverOpen then .closed
  else if c.items.length < c.capacity then .sent { c with items := c.items ++ [a] }
  else .full

inductive Received (α : Type) where
  | item (a : α) (c : Channel α)
  | empty
  | closed

/-- Receives the oldest item. The channel is closed once it is empty and the sender has left. -/
def receive (c : Channel α) : Received α :=
  match c.items with
  | a :: rest => .item a { c with items := rest }
  | [] => if c.senderOpen then .empty else .closed

theorem send_eq_sent_iff {c d : Channel α} {a : α} :
    c.send a = .sent d ↔ c.receiverOpen = true ∧ c.items.length < c.capacity ∧
      d = { c with items := c.items ++ [a] } := by
  rw [send]
  split
  · simp_all
  · split <;> grind

theorem send_eq_closed_iff {c : Channel α} {a : α} :
    c.send a = .closed ↔ c.receiverOpen = false := by
  rw [send]
  split
  · simp_all
  · split <;> simp_all

theorem receive_eq_item_iff {c d : Channel α} {a : α} :
    c.receive = .item a d ↔ c.items = a :: d.items ∧ d = { c with items := d.items } := by
  rw [receive]
  split <;> grind

theorem receive_eq_closed_iff {c : Channel α} :
    c.receive = .closed ↔ c.items = [] ∧ c.senderOpen = false := by
  rw [receive]
  split
  · simp_all
  · split <;> simp_all

theorem receive_eq_empty_iff {c : Channel α} :
    c.receive = .empty ↔ c.items = [] ∧ c.senderOpen = true := by
  rw [receive]
  split
  · simp_all
  · split <;> simp_all

def closeSender (c : Channel α) : Channel α :=
  { c with senderOpen := false }

/-- The receiver leaves, and what is in the queue is lost. -/
def closeReceiver (c : Channel α) : Channel α :=
  { c with receiverOpen := false, items := [] }

end Channel

end Parley
