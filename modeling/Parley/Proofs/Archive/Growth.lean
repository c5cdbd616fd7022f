import Parley.Archive
import Mathlib.Tactic.Common

/-! # Growth of transcripts

An archive grows by additions at the end of a transcript. An addition is told by the speaker and
the text of the new message; everything that was there before stays as it is.
-/

namespace Parley.Archive

/-- From one archive to another exactly this was added to the transcript of a session, and no other
transcript changed. -/
structure Grew (a b : Archive) (id : SessionId) (said : List (Role × String)) : Prop where
  known : said ≠ [] → (a.find? id).isSome
  here : ∃ ms : List Message, (ms.map fun m => (m.role, m.text)) = said ∧
    b.find? id = (a.find? id).map (·.extend ms)
  elsewhere : ∀ j, j ≠ id → b.find? j = a.find? j

variable {a b c : Archive} {id : SessionId} {said more : List (Role × String)}

theorem Grew.of_find? (h : ∀ j, b.find? j = a.find? j) : Grew a b id [] where
  known := by simp
  here := ⟨[], rfl, by cases ha : a.find? id <;> simp [h, ha]⟩
  elsewhere j _ := h j

theorem Grew.refl (a : Archive) (id : SessionId) : Grew a a id [] :=
  .of_find? fun _ => rfl

theorem Grew.trans (h : Grew a b id said) (h' : Grew b c id more) : Grew a c id (said ++ more) := by
  obtain ⟨ms, rfl, hb⟩ := h.here
  obtain ⟨ns, rfl, hc⟩ := h'.here
  refine ⟨fun hne => ?_, ⟨ms ++ ns, by simp, ?_⟩, fun j hj => ?_⟩
  · by_cases hm : (ms.map fun m => (m.role, m.text)) = []
    · have hn := h'.known (by simpa [hm] using hne)
      simpa [hb] using hn
    · exact h.known hm
  · rw [hc, hb, Option.map_map]
    congr 1
    funext t
    exact t.extend_extend ms ns
  · rw [h'.elsewhere j hj, h.elsewhere j hj]

theorem Grew.pairs (h : Grew a b id said) {t : Transcript} (ht : a.find? id = some t) :
    ∃ u, b.find? id = some u ∧ u.pairs = t.pairs ++ said := by
  obtain ⟨ms, rfl, hb⟩ := h.here
  exact ⟨t.extend ms, by rw [hb, ht]; rfl, t.pairs_extend ms⟩

def addition (a : Archive) (id : SessionId) (role : Role) (text : String) : List (Role × String) :=
  if (a.append id role text).1.isOk then [(role, text)] else []

theorem grew_append (a : Archive) (id : SessionId) (role : Role) (text : String) :
    Grew a (a.append id role text).2 id (a.addition id role text) := by
  rw [addition]
  rcases h : a.append id role text with ⟨_ | m, b⟩
  · exact .of_find? (append_error h)
  · obtain ⟨⟨rfl, rfl⟩, hk, hb⟩ := append_ok h
    exact ⟨fun _ => hk, ⟨[m], rfl, by simpa using hb id⟩, fun j hj => by simpa [hj] using hb j⟩

theorem Grew.of_append_ok {role : Role} {text : String} {m : Message}
    (h : a.append id role text = (.ok m, b)) : Grew a b id [(role, text)] := by
  simpa [addition, h, Except.isOk, Except.toBool] using a.grew_append id role text

theorem Grew.of_append_error {role : Role} {text : String} {e : Error}
    (h : a.append id role text = (.error e, b)) : Grew a b id [] :=
  .of_find? (append_error h)

theorem find?_of_get {j : SessionId} {x : Except Error Transcript} (h : a.get j = (x, b))
    (i : SessionId) : b.find? i = a.find? i := by
  have hb : (a.get j).2.find? i = a.find? i := find?_get i
  rwa [h] at hb

theorem find?_of_append {j : SessionId} {role : Role} {text : String} {x : Except Error Message}
    (h : a.append j role text = (x, b)) (hj : j ≠ id) : b.find? id = a.find? id := by
  have hgrew := a.grew_append j role text
  rw [h] at hgrew
  exact hgrew.elsewhere id hj.symm

theorem Grew.of_get {j : SessionId} {x : Except Error Transcript} (h : a.get j = (x, b)) :
    Grew a b id [] :=
  .of_find? (find?_of_get h)

/-- From one archive to another this was added to the transcript of a session, whatever became of
the other transcripts. -/
structure Gained (a b : Archive) (id : SessionId) (said : List (Role × String)) : Prop where
  known : said ≠ [] → (a.find? id).isSome
  here : ∃ ms : List Message, (ms.map fun m => (m.role, m.text)) = said ∧
    b.find? id = (a.find? id).map (·.extend ms)

theorem Grew.gained (h : Grew a b id said) : Gained a b id said :=
  ⟨h.known, h.here⟩

theorem Gained.refl (a : Archive) (id : SessionId) : Gained a a id [] :=
  (Grew.refl a id).gained

theorem Gained.of_find?_eq (h : Gained a b id said) (hc : c.find? id = b.find? id) :
    Gained a c id said := by
  obtain ⟨ms, hms, hb⟩ := h.here
  exact ⟨h.known, ms, hms, hc.trans hb⟩

theorem Gained.trans (h : Gained a b id said) (h' : Gained b c id more) :
    Gained a c id (said ++ more) := by
  obtain ⟨ms, rfl, hb⟩ := h.here
  obtain ⟨ns, rfl, hc⟩ := h'.here
  refine ⟨fun hne => ?_, ms ++ ns, by simp, ?_⟩
  · cases ha : a.find? id with
    | some => rfl
    | none =>
      -- nothing was there to add to, neither before the first addition nor before the second
      rw [ha] at hb
      have hfirst := mt h.known (by simp [ha])
      have hsecond := mt h'.known (by simp [hb])
      simp only [not_not] at hfirst hsecond
      simp [hfirst, hsecond] at hne
  · rw [hc, hb, Option.map_map]
    congr 1
    funext t
    exact t.extend_extend ms ns

theorem Gained.pairs (h : Gained a b id said) {t : Transcript} (ht : a.find? id = some t) :
    ∃ u, b.find? id = some u ∧ u.pairs = t.pairs ++ said := by
  obtain ⟨ms, rfl, hb⟩ := h.here
  exact ⟨t.extend ms, by rw [hb, ht]; rfl, t.pairs_extend ms⟩

theorem Gained.isSome (h : Gained a b id said) (ha : (a.find? id).isSome) :
    (b.find? id).isSome := by
  obtain ⟨t, ht⟩ := Option.isSome_iff_exists.mp ha
  obtain ⟨u, hu, -⟩ := h.pairs ht
  simp [hu]

theorem Gained.find?_eq_iff (h : Gained a b id said) : b.find? id = a.find? id ↔ said = [] := by
  obtain ⟨ms, rfl, hb⟩ := h.here
  constructor
  · intro he
    by_contra hne
    obtain ⟨t, ht⟩ := Option.isSome_iff_exists.mp (h.known hne)
    rw [he, ht, Option.map_some] at hb
    have hlength := congrArg (List.length ∘ Transcript.messages) (Option.some.inj hb)
    simp only [Function.comp_apply, Transcript.extend, List.length_append] at hlength
    have hms : ms = [] := List.length_eq_zero_iff.mp (by omega)
    simp [hms] at hne
  · intro hn
    obtain rfl : ms = [] := by simpa using hn
    rw [hb]
    cases a.find? id <;> simp

/-- The medium refuses nothing. -/
def Unfailing (a : Archive) : Prop :=
  (∀ n role, a.faults.append n role = none) ∧ ∀ n, a.faults.read n = none

variable {role : Role} {text : String}

theorem faults_of_append {x : Except Error Message} (h : a.append id role text = (x, b)) :
    b.faults = a.faults := by
  have hb : (a.append id role text).2.faults = a.faults := by
    simp only [append]
    split
    · rfl
    · split <;> rfl
  rwa [h] at hb

theorem faults_of_get {x : Except Error Transcript} (h : a.get id = (x, b)) :
    b.faults = a.faults := by
  have hb : (a.get id).2.faults = a.faults := by
    simp only [get]
    split <;> rfl
  rwa [h] at hb

theorem faults_of_create {x : Except Error Transcript} (h : a.create = (x, b)) :
    b.faults = a.faults := by
  have hb : a.create.2.faults = a.faults := by
    rw [create]
    split <;> rfl
  rwa [h] at hb

theorem faults_delete (a : Archive) (id : SessionId) : (a.delete id).2.faults = a.faults := by
  rw [delete]
  split <;> rfl

theorem Unfailing.of_faults_eq (h : a.Unfailing) (hb : b.faults = a.faults) : b.Unfailing := by
  rw [Unfailing, hb]
  exact h

theorem Unfailing.append (h : a.Unfailing) (hid : (a.find? id).isSome) (role : Role)
    (text : String) : ∃ m b, a.append id role text = (.ok m, b) := by
  obtain ⟨store, hs⟩ : ∃ store,
      a.store.append id { role, text, generatedAt := a.clock } = .ok store :=
    Store.append_eq_ok_iff.mpr hid
  simp only [Archive.append, h.1, Archive.now, hs]
  exact ⟨_, _, rfl⟩

theorem Unfailing.get (h : a.Unfailing) (hid : (a.find? id).isSome) :
    ∃ t b, a.get id = (.ok t, b) := by
  obtain ⟨t, ht⟩ := Option.isSome_iff_exists.mp hid
  have hstore : a.store.get id = .ok t := by
    rw [find?] at ht
    simp [Store.get, ht]
  simp only [Archive.get, h.2, hstore]
  exact ⟨_, _, rfl⟩

end Parley.Archive
