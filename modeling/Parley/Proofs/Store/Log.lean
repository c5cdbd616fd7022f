import Mathlib.Data.Set.Card
import Parley.Store

/-! # The store as a log

The calls of a store and their answers, noted in order, tell what it holds: a session is open from
the call that opened it to the call that deletes it, and its messages are those that were added in
between. A store with any limit gives every call the answer that this log calls for.
-/

namespace Parley

namespace Store

/-- A call of a store. A session that is opened takes the first free one of the given
identifiers. -/
inductive Act where
  | create (ids : List SessionId) (createdAt : Timestamp)
  | append (id : SessionId) (m : Message)
  | get (id : SessionId)
  | list
  | delete (id : SessionId)

inductive Answer where
  | done
  | transcript (t : Transcript)
  | transcripts (ts : List Transcript)
  deriving DecidableEq

def Act.session? : Act → Option SessionId
  | .append id _ | .get id | .delete id => some id
  | .create _ _ | .list => none

/-- Makes a call: its answer, and the store after it. -/
def perform (s : Store) : Act → Except Error Answer × Store
  | .create ids createdAt =>
    match s.create ids createdAt with
    | .ok (t, s') => (.ok (.transcript t), s')
    | .error e => (.error e, s)
  | .append id m =>
    match s.append id m with
    | .ok s' => (.ok .done, s')
    | .error e => (.error e, s)
  | .get id => ((s.get id).map .transcript, s)
  | .list => (.ok (.transcripts s.list), s)
  | .delete id =>
    match s.delete id with
    | .ok s' => (.ok .done, s')
    | .error e => (.error e, s)

/-- The moment at which each open session was opened, and the messages added to it since. -/
abbrev Log := SessionId → Option (Timestamp × List Message)

namespace Log

/-- Notes a call with its answer. Calls that fail leave no trace. -/
def note (l : Log) : Act × Except Error Answer → Log
  | (.create _ _, .ok (.transcript t)) => Function.update l t.id (some (t.createdAt, []))
  | (.append id m, .ok _) =>
    Function.update l id ((l id).map fun (createdAt, ms) => (createdAt, ms ++ [m]))
  | (.delete id, .ok _) => Function.update l id none
  | _ => l

/-- The log of the calls that have been made. -/
def ofCalls (calls : List (Act × Except Error Answer)) : Log :=
  calls.foldl note fun _ => none

noncomputable def size (l : Log) : Nat :=
  {id | l id ≠ none}.ncard

def transcript? (l : Log) (id : SessionId) : Option Transcript :=
  (l id).map fun (createdAt, messages) => { id, createdAt, messages }

/-- One of the identifiers for a new session is free. -/
def Supplies (l : Log) : Act → Prop
  | .create ids _ => ∃ id ∈ ids, l id = none
  | _ => True

/-- The answers that a log calls for, where at most `limit` sessions may be open. -/
inductive Answers (limit : Option Nat) (l : Log) : Act → Except Error Answer → Prop
  | full {ids : List SessionId} {createdAt : Timestamp} {n : Nat} :
      limit = some n → n ≤ l.size →
      Answers limit l (.create ids createdAt)
        (.error (.storage ("session limit of " ++ toString n ++ " reached")))
  | opened {ids : List SessionId} {createdAt : Timestamp} {id : SessionId} :
      (∀ n, limit = some n → l.size < n) → id ∈ ids → l id = none →
      Answers limit l (.create ids createdAt)
        (.ok (.transcript { id, createdAt, messages := [] }))
  | added {id : SessionId} {m : Message} :
      l id ≠ none → Answers limit l (.append id m) (.ok .done)
  | got {id : SessionId} {t : Transcript} :
      l.transcript? id = some t → Answers limit l (.get id) (.ok (.transcript t))
  | listed {ts : List Transcript} :
      (ts.map (·.id)).Nodup → (∀ t, t ∈ ts ↔ l.transcript? t.id = some t) →
      ts.Pairwise (·.createdAt.instant ≤ ·.createdAt.instant) →
      Answers limit l .list (.ok (.transcripts ts))
  | deleted {id : SessionId} :
      l id ≠ none → Answers limit l (.delete id) (.ok .done)
  | unknown {act : Act} {id : SessionId} :
      act.session? = some id → l id = none →
      Answers limit l act (.error (.notFound "unknown session" (some id.text)))

end Log

/-- A store with the calls made so far and their answers. -/
structure Ledger where
  store : Store
  calls : List (Act × Except Error Answer) := []

namespace Ledger

def act (g : Ledger) (a : Act) : Ledger where
  store := (g.store.perform a).2
  calls := g.calls ++ [(a, (g.store.perform a).1)]

def run (limit : Option Nat) (acts : List Act) : Ledger :=
  acts.foldl act { store := { limit } }

def log (g : Ledger) : Log :=
  .ofCalls g.calls

@[simp] theorem log_act (g : Ledger) (a : Act) :
    (g.act a).log = g.log.note (a, (g.store.perform a).1) := by
  simp [log, act, Log.ofCalls]

end Ledger

variable {s : Store} {limit : Option Nat} {l : Log} {id : SessionId}

theorem id_of_find? {t : Transcript} (h : s.find? id = some t) : t.id = id := by
  simpa using List.find?_some h

theorem find?_delete_self {t : Store} (h : s.delete id = .ok t) : t.find? id = none := by
  rw [delete] at h
  split at h
  · cases h
  · obtain rfl := Except.ok.inj h
    simp [find?]

theorem ids_append {t : Store} {m : Message} (h : s.append id m = .ok t) :
    t.limit = s.limit ∧ t.sessions.map (·.id) = s.sessions.map (·.id) := by
  rw [append] at h
  split at h
  · cases h
  · obtain rfl := Except.ok.inj h
    refine ⟨rfl, ?_⟩
    rw [List.map_map]
    refine List.map_congr_left fun t _ => ?_
    simp only [Function.comp_apply]
    split <;> rfl

/-- The store holds what the log says, and no session twice. -/
structure Follows (limit : Option Nat) (l : Log) (s : Store) : Prop where
  limit_eq : s.limit = limit
  nodup : (s.sessions.map (·.id)).Nodup
  find?_eq : ∀ id, s.find? id = l.transcript? id
  length_le : ∀ n, limit = some n → s.sessions.length ≤ n

namespace Follows

variable (h : Follows limit l s)
include h

theorem find?_eq_none_iff : s.find? id = none ↔ l id = none := by
  rw [h.find?_eq, Log.transcript?, Option.map_eq_none_iff]

/-- No identifier is taken twice, so each session of the store is the one that is found. -/
theorem mem_iff {t : Transcript} : t ∈ s.sessions ↔ l.transcript? t.id = some t := by
  rw [← h.find?_eq]
  constructor
  · intro ht
    have hs : (s.find? t.id).isSome :=
      List.find?_isSome.mpr ⟨t, ht, by simp⟩
    obtain ⟨u, hu⟩ := Option.isSome_iff_exists.mp hs
    have hut : u = t :=
      List.inj_on_of_nodup_map h.nodup (List.mem_of_find?_eq_some hu) ht (id_of_find? hu)
    rw [hu, hut]
  · exact List.mem_of_find?_eq_some

theorem open_eq : {id | l id ≠ none} = ((s.sessions.map (·.id)).toFinset : Set SessionId) := by
  ext id
  simp only [Set.mem_ofPred_eq, ne_eq, ← h.find?_eq_none_iff, find?, List.find?_eq_none,
    List.coe_toFinset, List.mem_map]
  simp

theorem size_eq : l.size = s.sessions.length := by
  rw [Log.size, h.open_eq, Set.ncard_coe_finset, List.toFinset_card_of_nodup h.nodup,
    List.length_map]

theorem isFull_iff : s.isFull = true ↔ ∃ n, limit = some n ∧ n ≤ l.size := by
  rw [isFull, h.limit_eq, h.size_eq]
  cases limit <;> simp

theorem create {t : Store} {ids : List SessionId} {createdAt : Timestamp} {u : Transcript}
    (hc : s.create ids createdAt = .ok (u, t)) :
    Follows limit (l.note (.create ids createdAt, .ok (.transcript u))) t := by
  obtain ⟨hfull, -, hn, -, ht⟩ := create_eq_ok hc
  have hids : u.id ∉ s.sessions.map (·.id) := by
    simpa [find?, List.find?_eq_none] using hn
  refine ⟨ht ▸ h.limit_eq, ?_, fun j => ?_, fun n hlim => ?_⟩
  · rw [ht]
    simpa [List.nodup_append] using ⟨h.nodup, by simpa using hids⟩
  · by_cases hj : j = u.id
    · obtain ⟨-, hnil, hfind⟩ := find?_create hc
      rw [hj, hfind]
      simp [Log.note, Log.transcript?, ← hnil]
    · rw [find?_create_of_ne hc hj, h.find?_eq]
      simp [Log.note, Log.transcript?, Function.update_of_ne hj]
  · have hlt : ¬ n ≤ s.sessions.length := by
      intro hle
      rw [← h.size_eq] at hle
      rw [h.isFull_iff.mpr ⟨n, hlim, hle⟩] at hfull
      cases hfull
    rw [ht, List.length_append, List.length_singleton]
    omega

theorem append {t : Store} {m : Message} (ha : s.append id m = .ok t) :
    Follows limit (l.note (.append id m, .ok .done)) t := by
  obtain ⟨hlim, hids⟩ := ids_append ha
  have hlen : t.sessions.length = s.sessions.length := by
    simpa using congrArg List.length hids
  refine ⟨hlim.trans h.limit_eq, hids ▸ h.nodup, fun j => ?_, hlen ▸ h.length_le⟩
  rw [find?_append ha, h.find?_eq, h.find?_eq]
  split
  · subst j
    cases hl : l id <;> simp [Log.note, Log.transcript?, Transcript.extend, hl]
  · next hj => simp [Log.note, Log.transcript?, Function.update_of_ne hj]

theorem delete {t : Store} (hd : s.delete id = .ok t) :
    Follows limit (l.note (.delete id, .ok .done)) t := by
  have ht : t = { s with sessions := s.sessions.filter (·.id ≠ id) } := by
    rw [Store.delete] at hd
    split at hd
    · cases hd
    · exact (Except.ok.inj hd).symm
  refine ⟨ht ▸ h.limit_eq, ?_, fun j => ?_, fun n hlim => ?_⟩
  · rw [ht]
    exact h.nodup.sublist (List.filter_sublist.map _)
  · by_cases hj : j = id
    · subst hj
      rw [find?_delete_self hd]
      simp [Log.note, Log.transcript?]
    · rw [find?_delete hd hj, h.find?_eq]
      simp [Log.note, Log.transcript?, Function.update_of_ne hj]
  · rw [ht]
    exact (List.length_filter_le _ _).trans (h.length_le n hlim)

theorem perform (a : Act) :
    Follows limit (l.note (a, (s.perform a).1)) (s.perform a).2 := by
  cases a with
  | create ids createdAt =>
    rw [Store.perform]
    cases hc : s.create ids createdAt with
    | ok r => exact h.create hc
    | error e => exact h
  | append id m =>
    rw [Store.perform]
    cases ha : s.append id m with
    | ok t => exact h.append ha
    | error e => exact h
  | get id => exact h
  | list => exact h
  | delete id =>
    rw [Store.perform]
    cases hd : s.delete id with
    | ok t => exact h.delete hd
    | error e => exact h

theorem answers {a : Act} (hs : l.Supplies a) : l.Answers limit a (s.perform a).1 := by
  cases a with
  | create ids createdAt =>
    obtain ⟨id, hid, hfree⟩ := hs
    rw [Store.perform]
    cases hc : s.create ids createdAt with
    | ok r =>
      obtain ⟨u, t⟩ := r
      obtain ⟨hfull, hmem, hfree, hu, -⟩ := create_eq_ok hc
      have hn : l u.id = none := h.find?_eq_none_iff.mp hfree
      have hlt : ∀ n, limit = some n → l.size < n := by
        intro n hlim
        by_contra hle
        rw [h.isFull_iff.mpr ⟨n, hlim, Nat.le_of_not_lt hle⟩] at hfull
        cases hfull
      change l.Answers limit _ (.ok (.transcript u))
      rw [hu]
      exact .opened hlt hmem hn
    | error e =>
      rw [Store.create] at hc
      split at hc
      · next hfull =>
        obtain ⟨n, hlim, hle⟩ := h.isFull_iff.mp hfull
        rw [h.limit_eq, hlim] at hc
        exact Except.error.inj hc ▸ .full hlim hle
      · split at hc
        · next hnone =>
          -- a free identifier is found
          have hsome := List.find?_eq_none.mp hnone id hid
          simp [h.find?_eq_none_iff.mpr hfree] at hsome
        · cases hc
  | append id m =>
    rw [Store.perform, Store.append]
    cases hf : s.find? id with
    | none => exact .unknown rfl (h.find?_eq_none_iff.mp hf)
    | some t => exact .added fun hl => by simp [h.find?_eq_none_iff.mpr hl] at hf
  | get id =>
    rw [Store.perform, Store.get]
    cases hf : s.find? id with
    | none => exact .unknown rfl (h.find?_eq_none_iff.mp hf)
    | some t => exact .got (h.find?_eq id ▸ hf)
  | list =>
    have hp : s.list.Perm s.sessions := List.mergeSort_perm _ _
    refine .listed ((hp.map _).nodup_iff.mpr h.nodup) (fun t => ?_) ?_
    · rw [hp.mem_iff, h.mem_iff]
    · have hsorted : s.list.Pairwise fun t u =>
          decide (t.createdAt.instant ≤ u.createdAt.instant) = true :=
        List.pairwise_mergeSort (fun _ _ _ => by simpa using Int.le_trans)
          (fun _ _ => by simpa using Int.le_total _ _) s.sessions
      exact hsorted.imp of_decide_eq_true
  | delete id =>
    rw [Store.perform, Store.delete]
    cases hf : s.find? id with
    | none => exact .unknown rfl (h.find?_eq_none_iff.mp hf)
    | some t => exact .deleted fun hl => by simp [h.find?_eq_none_iff.mpr hl] at hf

end Follows

theorem perform_of_error {a : Act} {e : Error} (h : (s.perform a).1 = .error e) :
    (s.perform a).2 = s := by
  cases a with
  | create ids createdAt =>
    rw [perform] at h ⊢
    cases hc : s.create ids createdAt <;> simp_all
  | append id m =>
    rw [perform] at h ⊢
    cases ha : s.append id m <;> simp_all
  | get id => rfl
  | list => rfl
  | delete id =>
    rw [perform] at h ⊢
    cases hd : s.delete id <;> simp_all

theorem Log.size_delete (hfin : {j | l j ≠ none}.Finite) (hid : l id ≠ none) :
    (l.note (.delete id, .ok .done)).size + 1 = l.size := by
  have hs : {j | l.note (.delete id, .ok .done) j ≠ none} = {j | l j ≠ none} \ {id} := by
    ext j
    by_cases hj : j = id
    · simp [Log.note, hj]
    · simp [Log.note, hj]
  rw [Log.size, hs]
  exact Set.ncard_sdiff_singleton_add_one hid hfin

theorem follows_run (limit : Option Nat) (acts : List Act) :
    Follows limit (Ledger.run limit acts).log (Ledger.run limit acts).store := by
  induction acts using List.reverseRecOn with
  | nil => exact ⟨rfl, List.nodup_nil, fun _ => rfl, fun _ _ => Nat.zero_le _⟩
  | append_singleton acts a ih =>
    have hr : Ledger.run limit (acts ++ [a]) = (Ledger.run limit acts).act a := by
      simp [Ledger.run]
    rw [hr, Ledger.log_act]
    exact ih.perform a

/-- After any calls of an empty store, with any limit or none, the store holds the sessions of the
log with their messages, never more of them than the limit, and answers the next call as the log
says. A call that fails changes nothing; a deleted session makes room for one more. -/
theorem behaves_as_log (limit : Option Nat) (acts : List Act) (a : Act) :
    let g := Ledger.run limit acts
    (∀ id, g.store.find? id = g.log.transcript? id) ∧
    g.store.sessions.length = g.log.size ∧
    (∀ n, limit = some n → g.log.size ≤ n) ∧
    (g.log.Supplies a → g.log.Answers limit a (g.store.perform a).1) ∧
    (∀ e, (g.store.perform a).1 = .error e →
      (g.act a).store = g.store ∧ (g.act a).log = g.log) ∧
    ∀ id, a = .delete id → g.log id ≠ none → (g.act a).log.size + 1 = g.log.size := by
  intro g
  have h : Follows limit g.log g.store := follows_run limit acts
  refine ⟨h.find?_eq, h.size_eq.symm, fun n hn => h.size_eq ▸ h.length_le n hn,
    h.answers, fun e he => ?_, ?_⟩
  · refine ⟨perform_of_error he, ?_⟩
    rw [Ledger.log_act, he]
    cases a <;> rfl
  · rintro id rfl hid
    have hdone : (g.store.perform (.delete id)).1 = .ok .done := by
      rw [perform, delete]
      cases hf : g.store.find? id with
      | none => exact absurd (h.find?_eq_none_iff.mp hf) hid
      | some t => rfl
    rw [Ledger.log_act, hdone]
    exact Log.size_delete (h.open_eq ▸ Finset.finite_toSet _) hid

/-- A store for one session: the second session is refused until the first one is deleted, and is
empty although the first one was not. -/
theorem behaves_as_log_one :
    let m : Message := ⟨.user, "Hi", default⟩
    let acts : List Act := [.create [.ofSerial 1] default, .append (.ofSerial 1) m,
      .create [.ofSerial 1, .ofSerial 2] default, .get (.ofSerial 1), .delete (.ofSerial 1),
      .get (.ofSerial 1), .create [.ofSerial 1] default]
    (Ledger.run (some 1) acts).calls.map (·.2) =
        [.ok (.transcript ⟨.ofSerial 1, default, []⟩), .ok .done,
          .error (.storage "session limit of 1 reached"),
          .ok (.transcript ⟨.ofSerial 1, default, [m]⟩), .ok .done,
          .error (.notFound "unknown session" (some (SessionId.ofSerial 1).text)),
          .ok (.transcript ⟨.ofSerial 1, default, []⟩)] ∧
      (Ledger.run (some 1) acts).log.size ≤ 1 ∧
      (Ledger.run (some 1) acts).log.Answers (some 1) (.append (.ofSerial 1) m) (.ok .done) := by
  intro m acts
  obtain ⟨-, -, hsize, hanswer, -⟩ := behaves_as_log (some 1) acts (.append (.ofSerial 1) m)
  refine ⟨by decide +kernel, hsize 1 rfl, ?_⟩
  exact hanswer trivial

end Store

end Parley
