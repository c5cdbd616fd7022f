import Parley.Proofs.Session.Whole

/-! # The end of a turn

A turn is concluded when its call has returned, or when its reader has seen the end of a stream. The
relay has ended by then, and what it says of the reply is what it has kept.
-/

namespace Parley

namespace Session

open Service (Follows Plays scene)
open Relay.Scene (Faithful)

variable {P : Performance → Prop} {b s : Session} {k : Nat} {text : String} {t : Turn}
  {added : List (Role × String)} {received : List Increment} {sawEnd shown : Bool}
  {failure : Option Error} {ending : Ending}

def lastDrawings (s : Session) (k : Nat) (ending : Ending) : List Drawing :=
  s.endingDrawings ending ++
    match s.outcome k ending with
    | .ok () => []
    | .error e => s.failureDrawings e

theorem drawings_conclude (s : Session) (k : Nat) (ending : Ending) :
    (s.conclude k ending).drawings = s.drawings ++ s.lastDrawings k ending := by
  rw [conclude]
  exact drawings_draw ..

theorem outcome_of_warned (h : .warning "Cancelled." ∈ s.lastDrawings k ending) :
    ∃ e, s.outcome k ending = .error e ∧ e.isCancelled = true := by
  have hending : .warning "Cancelled." ∉ s.endingDrawings ending := by
    cases ending with
    | called result => cases result <;> simp [endingDrawings, wholeReply]
    | streamed shown => cases shown <;> simp [endingDrawings]
  unfold lastDrawings at h
  rcases List.mem_append.mp h with h | h
  · exact absurd h hending
  · split at h
    · cases h
    · next e he =>
      refine ⟨e, he, ?_⟩
      unfold failureDrawings at h
      split at h
      · simp [wholeReply] at h
      · split at h
        · assumption
        · simp at h

theorem Shown.isError_of_failure {label : String} {ds : List Drawing}
    (h : Shown label received shown none ds) : ∀ i ∈ received, i.isError = false :=
  h.calm_iff.mp rfl

/-- When the reader has seen the end of a stream, its relay has ended. -/
theorem Story.streamed
    (h : Story P b k text (.closing (.streamed shown failure)) t added received sawEnd s) :
    ∃ p plan feed relay o taken ds, P p ∧ p.streamed = .ok plan ∧
      t.stage = .streaming feed relay ∧ relay.stage = .ended o ∧
      added = (.user, text) :: (o.reply? relay.text).toList.map (.assistant, ·) ∧
      Faithful (plan.increments.map (·.2)) (scene feed relay t.cancelled taken received true default) ∧
      s.lasting = b.lasting ++ ds ∧ Shown b.settings.assistantName received shown failure ds := by
  obtain ⟨ds, hds, rfl, ⟨feed, relay, hs⟩, hshown⟩ := h.tells
  obtain ⟨p, plan, taken, hP, hplan, -, hfaithful⟩ := Service.plays_streaming h.plays hs
  obtain ⟨⟨o, ho⟩, -⟩ := hfaithful.delivers.seen rfl
  have ho' : relay.stage = .ended o := ho
  have hadded := h.follows.added
  rw [hs, Turn.Added, Relay.kept, Relay.reply?, ho'] at hadded
  exact ⟨p, plan, feed, relay, o, taken, ds, hP, hplan, hs, ho', hadded, hfaithful, hds, hshown⟩

theorem Story.called {result : Except Error String}
    (h : Story P b k text (.closing (.called result)) t added received sawEnd s) :
    t.stage = .answered result ∧ s.lasting = b.lasting ∧
      Turn.Returned text b.service.options.context added result := by
  obtain ⟨ds, hds, hs, rfl⟩ := h.tells
  have hadded := h.follows.added
  rw [hs] at hadded
  exact ⟨hs, by rw [hds, List.append_nil], hadded⟩

end Session

end Parley
