import Parley.Proofs.Relay.Verdict

/-! # Streams that break off

A stream breaks off when it fails or when its generator leaves before the last increment. The text
of a failed stream is kept if the policy says so and if there is any. The text before a departure is
kept in any case, so that a generator that leaves at once leaves an empty reply in the transcript.
-/

namespace Parley.Relay

open Increment

/-- The stream ended without its last increment, and not because of a cancellation. -/
def Outcome.BrokeOff (o : Outcome) : Prop :=
  (∃ p, o = .failed p) ∨ ∃ text p, o = .hungUp text p

namespace Scene

variable {w : Scene} {a₀ : Archive} {session : SessionId} {policy : PartialPolicy}
  {src : List Increment} {acts : List Act} {o : Outcome} {text : String} {p : Bool}

theorem Tried.failed (h : w.Tried session policy a₀ src)
    (hs : w.relay.stage = .ended (.failed p)) :
    w.taken = upToTerminal src ∧
      if policy = .persist ∧ gathered w.taken ≠ "" then w.Recorded session a₀ p
      else p = false ∧ w.archive = a₀ := by
  obtain ⟨rfl, -, ⟨-, hflows, hstands⟩, -, hweighs⟩ := h
  rw [hs] at hstands hweighs
  exact ⟨hstands.1.taken_eq (fun _ => isTerminal_of_isError) hflows.taken_prefix, hweighs⟩

theorem Tried.hungUp (h : w.Tried session policy a₀ src)
    (hs : w.relay.stage = .ended (.hungUp text p)) :
    w.taken = upToTerminal src ∧ text = gathered w.taken ∧ w.Recorded session a₀ p := by
  obtain ⟨-, -, ⟨-, -, hstands⟩, hgathers, -⟩ := h
  rw [hs] at hstands hgathers
  obtain ⟨hcalm, hsrc, hrecorded⟩ := hstands
  exact ⟨by rw [hsrc, upToTerminal_of_calm (hsrc ▸ hcalm)], hgathers.2.2, hrecorded⟩

theorem Recorded.appends_eq (h : w.Recorded session a₀ p) :
    w.archive.appends = a₀.appends + 1 := by
  rw [h.2, Archive.appends_append]

/-- What a relay does about the text of a stream that broke off. With a failure it asks the store
for an addition only if the policy says so and there is text; with a departure it always asks. So it
asks for an empty reply just when the generator left before any text, and then the transcript gains
the empty reply unless the store refuses it. -/
theorem broken_off_records {session : SessionId} {policy : PartialPolicy}
    {sourceRoom sinkRoom : Nat} {a₀ : Archive} {src : List Increment} {acts : List Act}
    {w : Scene} {o : Outcome}
    (h : (start session policy sourceRoom sinkRoom a₀ src).play acts = some w)
    (ho : w.relay.outcome? = some o) (hbroke : o.BrokeOff) :
    let text := gathered (upToTerminal src)
    let asked := a₀.append session .assistant text
    (∀ p, o = .failed p →
      if policy = .persist ∧ text ≠ "" then p = asked.1.isOk ∧ w.archive = asked.2
      else p = false ∧ w.archive = a₀) ∧
    (∀ t p, o = .hungUp t p → t = text ∧ p = asked.1.isOk ∧ w.archive = asked.2) ∧
    (w.archive.appends = a₀.appends + 1 ∧ text = "" ↔ ∃ p, o = .hungUp "" p) ∧
    ∃ said, a₀.Grew w.archive session said ∧ ((.assistant, "") ∈ said ↔ o = .hungUp "" true) := by
  intro text asked
  have htried := tried_play h
  have hgrew : a₀.Grew w.archive session
      (if o.persisted then [(.assistant, gathered w.taken)] else []) := by
    have hstands := htried.sound.stands
    rw [outcome?_eq_some_iff.mp ho] at hstands
    exact hstands.grew
  obtain ⟨p, rfl⟩ | ⟨t, p, rfl⟩ := hbroke
  · obtain ⟨htaken, hweighs⟩ := htried.failed (outcome?_eq_some_iff.mp ho)
    rw [htaken] at hgrew
    simp only [Recorded, htaken] at hweighs
    refine ⟨?_, by simp, ⟨?_, by simp⟩, _, hgrew, ?_⟩
    · rintro q ⟨⟩
      split at hweighs
      · next hkeep => rw [if_pos hkeep]; exact ⟨hweighs.1.symm, hweighs.2⟩
      · next hkeep => rw [if_neg hkeep]; exact hweighs
    · rintro ⟨happends, hempty⟩
      rw [if_neg fun hkeep => hkeep.2 hempty] at hweighs
      simp [hweighs.2] at happends
    · cases p with
      | false => simp [Outcome.persisted]
      | true =>
        split at hweighs
        · next hkeep => simpa [Outcome.persisted] using hkeep.2.symm
        · cases hweighs.1
  · obtain ⟨htaken, rfl, hrecorded⟩ := htried.hungUp (outcome?_eq_some_iff.mp ho)
    have happends := hrecorded.appends_eq
    rw [htaken] at hgrew ⊢
    simp only [Recorded, htaken] at hrecorded
    refine ⟨by simp, ?_, ?_, _, hgrew, ?_⟩
    · rintro t q ⟨⟩
      exact ⟨rfl, hrecorded.1.symm, hrecorded.2⟩
    · simp [happends, text]
    · cases p with
      | false => simp [Outcome.persisted]
      | true => simp [Outcome.persisted, @eq_comm _ ""]

/-- With a policy to keep what there is, a stream that fails after an empty piece leaves nothing, one
that fails after some text leaves it, and so does a generator that leaves after some text. -/
theorem broken_off_records_text :
    let archive : Archive := (Archive.create { clock := default }).2
    let scene := start (.ofSerial 1) .persist 2 2 archive
    let failure : Increment := .failed (.storage "disk full")
    let failing : List Act :=
      [.send, .send, .relay, .relay, .relay, .relay, .relay, .relay, .relay, .relay]
    let leaving : List Act := [.send, .hangUp, .relay, .relay, .relay, .relay, .relay, .relay]
    (∃ w, (scene [.ofText "", failure]).play failing = some w ∧ w.archive = archive) ∧
    (∃ w, (scene [.ofText "Hel", failure]).play failing = some w ∧
      w.archive = (archive.append (.ofSerial 1) .assistant "Hel").2) ∧
    ∃ w, (scene [.ofText "Hel"]).play leaving = some w ∧
      w.archive = (archive.append (.ofSerial 1) .assistant "Hel").2 ∧
      ∃ said, archive.Grew w.archive (.ofSerial 1) said ∧ (.assistant, "") ∉ said := by
  intro archive scene failure failing leaving
  refine ⟨?_, ?_, ?_⟩
  · obtain ⟨w, h, ho⟩ : ∃ w, (scene [.ofText "", failure]).play failing = some w ∧
        w.relay.outcome? = some (.failed false) := ⟨_, rfl, rfl⟩
    exact ⟨w, h, ((broken_off_records h ho (.inl ⟨_, rfl⟩)).1 _ rfl).2⟩
  · obtain ⟨w, h, ho⟩ : ∃ w, (scene [.ofText "Hel", failure]).play failing = some w ∧
        w.relay.outcome? = some (.failed true) := ⟨_, rfl, rfl⟩
    exact ⟨w, h, ((broken_off_records h ho (.inl ⟨_, rfl⟩)).1 _ rfl).2⟩
  · obtain ⟨w, h, ho⟩ : ∃ w, (scene [.ofText "Hel"]).play leaving = some w ∧
        w.relay.outcome? = some (.hungUp "Hel" true) := ⟨_, rfl, rfl⟩
    obtain ⟨-, hkept, -, said, hgrew, hsaid⟩ := broken_off_records h ho (.inr ⟨_, _, rfl⟩)
    exact ⟨w, h, (hkept _ _ rfl).2.2, said, hgrew, mt hsaid.mp (by simp)⟩

/-- The empty reply of a generator that leaves at once is recorded. -/
theorem departed_keeps_empty :
    let archive : Archive := (Archive.create { clock := default }).2
    ∃ w, (start (.ofSerial 1) .discard 1 1 archive []).play [.hangUp, .relay, .relay, .relay] =
        some w ∧
      w.relay.outcome? = some (.hungUp "" true) ∧
      (w.archive.find? (.ofSerial 1)).map Transcript.pairs = some [(.assistant, "")] :=
  ⟨_, rfl, rfl, rfl⟩

end Scene

end Parley.Relay
