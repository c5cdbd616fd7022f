import Parley.Proofs.Session.Ending

/-! # What is shown is what is recorded

The reader of a stream shows the pieces that it receives, and the relay records the text of the
increments that it takes. When a turn ends well they have received and taken the same, up to the end
of the stream; a whole reply is shown as it was recorded.
-/

namespace Parley

namespace Session

open Increment Drawing
open Service (Plays scene)

variable {P : Performance → Prop} {b s : Session} {k : Nat} {text : String} {t : Turn}
  {added : List (Role × String)} {received : List Increment} {sawEnd shown : Bool}
  {failure : Option Error} {ending : Ending} {o : Relay.Outcome}

theorem lasting_conclude (hok : s.outcome k ending = .ok ()) :
    (s.conclude k ending).lasting = s.lasting ++ Drawing.lasting (s.endingDrawings ending) := by
  rw [lasting, drawings_conclude, lastDrawings, hok, List.append_nil, lasting_append]
  rfl

theorem uncancelled_of_outcome (ht : s.service.turns[k]? = some t)
    (hok : s.outcome k (.streamed shown failure) = .ok ()) :
    failure = none ∧ t.cancelled = false := by
  cases failure with
  | some e => cases hok
  | none =>
    refine ⟨rfl, ?_⟩
    obtain ⟨session, delivery, cancelled, stage⟩ := t
    cases cancelled with
    | false => rfl
    | true => simp [outcome, ht] at hok

theorem reply?_of_faithful {src : List Increment} {w : Relay.Scene} (h : w.Faithful src)
    (ho : w.relay.stage = .ended o) (hu : Relay.Unrefused (.ended o)) (hc : w.cancelled = false)
    (hcalm : ∀ i ∈ w.taken, i.isError = false) :
    o.reply? w.relay.text = some (gathered (upToTerminal src)) := by
  have hends := h.gathers
  rw [ho] at hends
  rw [← h.taken_eq ho hc]
  cases o with
  | completed reply persisted =>
    obtain ⟨-, rfl⟩ := hends
    obtain rfl : persisted = true := hu
    rfl
  | hungUp reply persisted =>
    obtain ⟨-, -, rfl⟩ := hends
    obtain rfl : persisted = true := hu
    rfl
  | failed persisted =>
    obtain ⟨is, i, hi, -, he⟩ := hends
    have hi' := hcalm i (by simp [hi])
    simp [he] at hi'
  | cancelled =>
    have hcancelled : w.cancelled = true := hends
    simp [hc] at hcancelled

/-- A turn that ends well has added a reply, and shown it in pieces. -/
theorem Story.successful (h : Story P b k text (.closing ending) t added received sawEnd s)
    (hstore : b.service.archive.Unfailing) (hknown : (b.service.archive.find? b.id).isSome)
    (hok : s.outcome k ending = .ok ()) :
    ∃ pieces, added = [(.user, text), (.assistant, String.join pieces)] ∧
      (s.conclude k ending).lasting = b.lasting ++ ofReply b.settings.assistantName pieces ∧
      (ending = .called (.ok (String.join pieces)) ∨ ∃ shown failure p plan,
        ending = .streamed shown failure ∧ P p ∧ p.streamed = .ok plan ∧
        String.join pieces = gathered (upToTerminal (plan.increments.map (·.2)))) := by
  rw [lasting_conclude hok]
  cases ending with
  | called result =>
    obtain ⟨-, hlasting, hreturned⟩ := h.called
    cases result with
    | error => cases hok
    | ok reply =>
      have hjoin : String.join [reply] = reply := by simp [String.join]
      refine ⟨[reply], by rw [hjoin]; exact hreturned, ?_, .inl (by rw [hjoin])⟩
      rw [hlasting, ← h.settings_eq]
      rfl
  | streamed shown failure =>
    obtain ⟨p, plan, feed, relay, o, taken, ds, hP, hplan, hs, ho, hadded, hfaithful, hds, hshown⟩ :=
      h.streamed
    obtain ⟨rfl, hc⟩ := uncancelled_of_outcome h.follows.here hok
    obtain ⟨-, -, hall⟩ := hfaithful.delivers.seen rfl
    obtain rfl : received = taken := hall hc
    have hunrefused := h.follows.unrefused hstore hknown
    rw [hs] at hunrefused
    have hended : Relay.Unrefused (.ended o) := ho ▸ hunrefused
    have hreply : o.reply? relay.text = _ :=
      reply?_of_faithful hfaithful ho hended hc hshown.isError_of_failure
    have htaken : received = _ := hfaithful.taken_eq ho hc
    have hjoin : String.join (pieces received) =
        gathered (upToTerminal (plan.increments.map (·.2))) := by rw [join_pieces, ← htaken]
    refine ⟨pieces received, ?_, ?_, .inr ⟨shown, none, p, plan, rfl, hP, hplan, hjoin⟩⟩
    · rw [hadded, hreply, hjoin]
      rfl
    · rw [hds, List.append_assoc, hshown.drawn, ofReply_eq]
      congr 2
      have hiff := hshown.shown_iff
      cases shown with
      | true =>
        rw [if_neg (hiff.mp rfl)]
        rfl
      | false =>
        have hnil : pieces received = [] := by simpa using hiff
        rw [if_pos hnil]
        rfl

end Session

end Parley
