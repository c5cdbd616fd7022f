import Parley.Error
import Parley.Message

/-! # The store of sessions

The store keeps one transcript a session. Messages are only ever added at the end of a
transcript; a session leaves the store as a whole.
-/

namespace Parley

/-- The sessions that are kept, in the order of their creation. -/
structure Store where
  limit : Option Nat := none
  sessions : List Transcript := []
  deriving DecidableEq, Inhabited

namespace Store

def unknown (id : SessionId) : Error :=
  .notFound "unknown session" (some id.text)

def find? (s : Store) (id : SessionId) : Option Transcript :=
  s.sessions.find? (·.id = id)

def isFull (s : Store) : Bool :=
  match s.limit with
  | some n => n ≤ s.sessions.length
  | none => false

/-- Opens a session under the first identifier that is not taken. -/
def create (s : Store) (ids : List SessionId) (createdAt : Timestamp) :
    Except Error (Transcript × Store) :=
  if s.isFull then
    .error (.storage ("session limit of " ++ toString (s.limit.getD 0) ++ " reached"))
  else
    match ids.find? fun id => (s.find? id).isNone with
    | none => .error (.storage "no unused session identifier")
    | some id =>
      let t : Transcript := { id, createdAt, messages := [] }
      .ok (t, { s with sessions := s.sessions ++ [t] })

def append (s : Store) (id : SessionId) (m : Message) : Except Error Store :=
  match s.find? id with
  | none => .error (unknown id)
  | some _ =>
    .ok { s with
      sessions := s.sessions.map fun t => if t.id = id then t.extend [m] else t }

def get (s : Store) (id : SessionId) : Except Error Transcript :=
  match s.find? id with
  | none => .error (unknown id)
  | some t => .ok t

def list (s : Store) : List Transcript :=
  s.sessions.mergeSort fun t u => t.createdAt.instant ≤ u.createdAt.instant

def delete (s : Store) (id : SessionId) : Except Error Store :=
  match s.find? id with
  | none => .error (unknown id)
  | some _ => .ok { s with sessions := s.sessions.filter (·.id ≠ id) }

theorem find?_append {s t : Store} {id : SessionId} {m : Message} (h : s.append id m = .ok t)
    (j : SessionId) :
    t.find? j = if j = id then (s.find? id).map (·.extend [m]) else s.find? j := by
  have hid : ((fun u : Transcript => decide (u.id = j)) ∘ fun u =>
      if u.id = id then u.extend [m] else u) = fun u => decide (u.id = j) := by
    funext u
    simp only [Function.comp_apply]
    split <;> rfl
  rw [append] at h
  split at h
  · cases h
  · obtain rfl := Except.ok.inj h
    rw [find?, List.find?_map, hid]
    change (s.find? j).map _ = _
    split
    · subst j
      cases hf : s.find? id with
      | none => rfl
      | some u => simp [(by simpa using List.find?_some hf : u.id = id)]
    · cases hf : s.find? j with
      | none => rfl
      | some u =>
        have hu : u.id = j := by simpa using List.find?_some hf
        simp [*]

theorem append_eq_ok_iff {s : Store} {id : SessionId} {m : Message} :
    (∃ t, s.append id m = .ok t) ↔ (s.find? id).isSome := by
  rw [append]
  split <;> simp_all

theorem find?_delete {s t : Store} {id : SessionId} (h : s.delete id = .ok t) {j : SessionId}
    (hj : j ≠ id) : t.find? j = s.find? j := by
  rw [delete] at h
  split at h
  · cases h
  · obtain rfl := Except.ok.inj h
    rw [find?, List.find?_filter]
    congr 1
    funext u
    grind

theorem create_eq_ok {s t : Store} {ids : List SessionId} {createdAt : Timestamp} {u : Transcript}
    (h : s.create ids createdAt = .ok (u, t)) :
    s.isFull = false ∧ u.id ∈ ids ∧ s.find? u.id = none ∧
      u = { id := u.id, createdAt, messages := [] } ∧
      t = { s with sessions := s.sessions ++ [u] } := by
  rw [create] at h
  split at h
  · cases h
  · next hf =>
    split at h
    · cases h
    · next id hid =>
      obtain ⟨rfl, rfl⟩ := Prod.mk.inj (Except.ok.inj h)
      exact ⟨by simpa using hf, List.mem_of_find?_eq_some hid, by simpa using List.find?_some hid,
        rfl, rfl⟩

theorem find?_create {s t : Store} {ids : List SessionId} {createdAt : Timestamp} {u : Transcript}
    (h : s.create ids createdAt = .ok (u, t)) :
    s.find? u.id = none ∧ u.messages = [] ∧ t.find? u.id = some u := by
  obtain ⟨-, -, hn, hu, rfl⟩ := create_eq_ok h
  refine ⟨hn, by rw [hu], ?_⟩
  rw [find?] at hn ⊢
  simp [List.find?_append, hn]

theorem find?_create_of_ne {s t : Store} {ids : List SessionId} {createdAt : Timestamp}
    {u : Transcript} (h : s.create ids createdAt = .ok (u, t)) {j : SessionId} (hj : j ≠ u.id) :
    t.find? j = s.find? j := by
  obtain ⟨-, -, -, -, rfl⟩ := create_eq_ok h
  simp [find?, List.find?_append, hj.symm]

end Store

end Parley
