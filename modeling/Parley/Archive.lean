import Parley.Store

/-! # The archive

A store together with what it needs from the world: a clock, a supply of identifiers and a medium
that may refuse single calls. Calls are counted, so that any pattern of refusals can be stated.
-/

namespace Parley

/-- The calls that the medium refuses, by their number and, for additions, the speaker. -/
structure Faults where
  append : Nat → Role → Option Error := fun _ _ => none
  read : Nat → Option Error := fun _ => none

instance : Inhabited Faults := ⟨{}⟩

/-- A store with a clock, a supply of identifiers and a medium. -/
structure Archive where
  store : Store := {}
  clock : Timestamp
  /-- The milliseconds between two readings of the clock. -/
  tick : Int := 1000
  opened : Nat := 0
  appends : Nat := 0
  reads : Nat := 0
  faults : Faults := {}
  deriving Inhabited

namespace Archive

def now (a : Archive) : Timestamp × Archive :=
  (a.clock, { a with clock := a.clock.addMillis a.tick })

/-- The transcript of a session, whatever the medium refuses. -/
def find? (a : Archive) (id : SessionId) : Option Transcript :=
  a.store.find? id

def create (a : Archive) : Except Error Transcript × Archive :=
  match a.store.create [.ofSerial (a.opened + 1)] a.clock with
  | .error e => (.error e, a)
  | .ok (t, store) => (.ok t, { a.now.2 with store, opened := a.opened + 1 })

/-- Adds what was said to a transcript, stamped with the time. -/
def append (a : Archive) (id : SessionId) (role : Role) (text : String) :
    Except Error Message × Archive :=
  let (generatedAt, b) := a.now
  let b := { b with appends := a.appends + 1 }
  let m : Message := { role, text, generatedAt }
  match a.faults.append a.appends role with
  | some e => (.error e, b)
  | none =>
    match a.store.append id m with
    | .error e => (.error e, b)
    | .ok store => (.ok m, { b with store })

def get (a : Archive) (id : SessionId) : Except Error Transcript × Archive :=
  let b := { a with reads := a.reads + 1 }
  match a.faults.read a.reads with
  | some e => (.error e, b)
  | none => (a.store.get id, b)

def delete (a : Archive) (id : SessionId) : Except Error Unit × Archive :=
  match a.store.delete id with
  | .error e => (.error e, a)
  | .ok store => (.ok (), { a with store })

/-- All transcripts in the order of their creation, whatever the clock showed. -/
def list (a : Archive) : List Transcript :=
  a.store.sessions

variable {a b : Archive} {id : SessionId} {role : Role} {text : String}

@[simp] theorem appends_append : (a.append id role text).2.appends = a.appends + 1 := by
  simp only [append]
  split
  · rfl
  · split <;> rfl

theorem append_ok {m : Message} (h : a.append id role text = (.ok m, b)) :
    (m.role = role ∧ m.text = text) ∧ (a.find? id).isSome ∧
      ∀ j, b.find? j = if j = id then (a.find? id).map (·.extend [m]) else a.find? j := by
  simp only [append] at h
  split at h
  · cases h
  · split at h
    · cases h
    · next store hs =>
      obtain ⟨hm, rfl⟩ := Prod.mk.inj h
      obtain rfl := Except.ok.inj hm
      exact ⟨⟨rfl, rfl⟩, Store.append_eq_ok_iff.mp ⟨store, hs⟩, Store.find?_append hs⟩

theorem append_error {e : Error} (h : a.append id role text = (.error e, b)) (j : SessionId) :
    b.find? j = a.find? j := by
  simp only [append] at h
  split at h
  · obtain rfl := (Prod.mk.inj h).2
    rfl
  · split at h
    · obtain rfl := (Prod.mk.inj h).2
      rfl
    · cases h

@[simp] theorem find?_get (j : SessionId) : (a.get id).2.find? j = a.find? j := by
  simp only [get]
  split <;> rfl

theorem find?_create {t : Transcript} (h : a.create = (.ok t, b)) :
    t.messages = [] ∧ b.find? t.id = some t := by
  rw [create] at h
  split at h
  · cases h
  · next u store hs =>
    obtain ⟨ht, rfl⟩ := Prod.mk.inj h
    obtain rfl := Except.ok.inj ht
    exact (Store.find?_create hs).2

theorem find?_delete {j : SessionId} (hj : j ≠ id) : (a.delete id).2.find? j = a.find? j := by
  rw [delete]
  split
  · rfl
  · next store hs => exact Store.find?_delete hs hj

end Archive

end Parley
