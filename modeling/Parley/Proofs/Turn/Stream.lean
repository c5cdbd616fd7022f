import Parley.Proofs.Relay.Faithful
import Parley.Proofs.Turn.Onward

/-! # The stream of a turn

A turn that streams is a relay at work: the feed sends, the relay makes its steps, and the archive
changes under its hands. What is known of a relay at work is so known of a turn, from the call of
the generator to the end of the stream.
-/

namespace Parley

namespace Performance

theorem streamed_of_stream? {p : Performance} {due now : Nat} {c : Bool} {plan : StreamPlan}
    (h : p.stream? due now c = some (.ok plan)) : p.streamed = .ok plan := by
  unfold stream? at h
  split at h
  · cases h
  · split at h
    · cases h
    · exact Option.some.inj h

end Performance

namespace Service

open Relay (Scene)
open Relay.Scene (Next Faithful)

variable {s s' : Service} {t t' : Turn} {feed : Feed} {relay : Relay} {c sawEnd : Bool}
  {taken received : List Increment} {a : Archive} {P : Performance → Prop} {part : Turn.Part}

/-- A turn that streams, as a relay at work. -/
def scene (feed : Feed) (relay : Relay) (cancelled : Bool) (taken received : List Increment)
    (sawEnd : Bool) (archive : Archive) : Scene :=
  { relay, archive, unsent := feed.increments.map (·.2), cancelled, taken, received, sawEnd }

theorem feedStep_next (h : s.feedStep t feed relay = some t') :
    ∃ feed' relay', t' = { t with stage := .streaming feed' relay' } ∧
      feed'.lingers = feed.lingers ∧ relay'.sink = relay.sink ∧
      Next (scene feed relay c taken received sawEnd a)
        (scene feed' relay' c taken received sawEnd a) := by
  unfold feedStep at h
  split at h
  · cases h
  · split at h
    · next ms i rest hi =>
      have hunsent : (scene feed relay c taken received sawEnd a).unsent =
          i :: rest.map (·.2) := by simp [scene, hi]
      split at h
      · next source hsend =>
        exact ⟨_, _, (Option.some.inj h).symm, rfl, rfl, .send hunsent hsend⟩
      · next hclosed => exact ⟨feed, _, (Option.some.inj h).symm, rfl, rfl, .giveUp hclosed⟩
      · cases h
    · next hi =>
      split at h
      · cases h
      · have hunsent : (scene feed relay c taken received sawEnd a).unsent = [] := by
          simp [scene, hi]
        exact ⟨feed, _, (Option.some.inj h).symm, rfl, rfl, .hangUp hunsent⟩

/-- How a turn plays that a generator with some performances began, when the reader has received
these increments and perhaps the end of the stream. -/
def Plays (P : Performance → Prop) (received : List Increment) (sawEnd : Bool) (t : Turn) : Prop :=
  match t.stage with
  | .asked _ => received = [] ∧ sawEnd = false
  | .generating p _ => P p ∧ received = [] ∧ sawEnd = false
  | .replied _ | .answered _ => True
  | .streaming feed relay =>
    ∃ p plan taken, P p ∧ p.streamed = .ok plan ∧ feed.lingers = plan.lingers ∧
      Faithful (plan.increments.map (·.2))
        (scene feed relay t.cancelled taken received sawEnd default)

theorem plays_streaming (h : Plays P received sawEnd t) (hs : t.stage = .streaming feed relay) :
    ∃ p plan taken, P p ∧ p.streamed = .ok plan ∧ feed.lingers = plan.lingers ∧
      Faithful (plan.increments.map (·.2))
        (scene feed relay t.cancelled taken received sawEnd default) := by
  rwa [Plays, hs] at h

/-- A stream that begins has a faithful relay, even if its turn is cancelled already. -/
theorem faithful_relayFor (s : Service) (t : Turn) (plan : StreamPlan) (now : Nat) (c : Bool) :
    Faithful (plan.increments.map (·.2))
      (scene (.start plan now) (s.relayFor t plan) c [] [] false default) := by
  have hstart := Scene.faithful_start t.session s.options.partialStream plan.capacity
    s.options.streamCapacity default (plan.increments.map (·.2))
  cases c with
  | false => exact hstart
  | true => exact hstart.next .cancel rfl

theorem Plays.call (h : Plays P received sawEnd t) (hm : CallMove s t t' s')
    (hnext : ∀ text, t.stage = .asked text → P s.generator.next) : Plays P received sawEnd t' := by
  cases hm with
  | @call _ _ _ _ messages _ _ hs _ _ hg =>
    rw [Plays, hs] at h
    obtain rfl : s.generator.next = _ := by
      rw [← (s.generator.call_eq t.delivery messages).1, hg]
    exact ⟨hnext _ hs, h⟩
  | @stream p due plan hs _ hp =>
    rw [Plays, hs] at h
    obtain ⟨hP, rfl, rfl⟩ := h
    exact ⟨p, plan, [], hP, p.streamed_of_stream? hp, rfl,
      faithful_relayFor s t plan s.now t.cancelled⟩
  | _ => trivial

theorem Plays.step (h : Plays P received sawEnd t) (hstep : s.turnStep t part = some (t', s'))
    (hnext : ∀ text, t.stage = .asked text → P s.generator.next) : Plays P received sawEnd t' := by
  cases part with
  | call => exact h.call (call_move hstep) hnext
  | feed =>
    obtain ⟨feed, relay, hs, hf, rfl⟩ := feeding_of_turnStep hstep
    obtain ⟨p, plan, taken, hP, hplan, hlingers, hfaithful⟩ := plays_streaming h hs
    obtain ⟨feed', relay', rfl, hfeed, hsink, hn⟩ := feedStep_next (c := t.cancelled) hf
    refine ⟨p, plan, taken, hP, hplan, hfeed.trans hlingers, hfaithful.next hn ?_⟩
    have hopen := hfaithful.receiverOpen
    simpa only [scene, hsink] using hopen
  | relay =>
    obtain ⟨feed, relay, relay', a, hs, hr, rfl, rfl⟩ := relaying_of_turnStep hstep
    obtain ⟨p, plan, taken, hP, hplan, hlingers, hfaithful⟩ := plays_streaming h hs
    have hm := Relay.step_move hr
    have hhere := hfaithful.setArchive s.archive
    have hnext' := hhere.next (.relay hm) (Scene.receiverOpen_relay hhere.receiverOpen hm)
    exact ⟨p, plan, _, hP, hplan, hlingers, hnext'.setArchive default⟩

theorem Plays.cancel (h : Plays P received sawEnd t) (c : Bool) :
    Plays P received sawEnd { t with cancelled := t.cancelled || c } := by
  cases c with
  | false => rwa [Bool.or_false]
  | true =>
    rw [Bool.or_true]
    unfold Plays at h ⊢
    cases hs : t.stage with
    | streaming feed relay =>
      rw [hs] at h
      obtain ⟨p, plan, taken, hP, hplan, hlingers, hfaithful⟩ := h
      exact ⟨p, plan, taken, hP, hplan, hlingers, hfaithful.next .cancel hfaithful.receiverOpen⟩
    | _ =>
      rw [hs] at h
      exact h

theorem Plays.receive {i : Increment} {sink : Channel Increment} (h : Plays P received sawEnd t)
    (hs : t.stage = .streaming feed relay) (hr : relay.sink.receive = .item i sink) :
    Plays P (received ++ [i]) sawEnd { t with stage := .streaming feed { relay with sink } } := by
  obtain ⟨p, plan, taken, hP, hplan, hlingers, hfaithful⟩ := plays_streaming h hs
  have hopen := hfaithful.receiverOpen
  obtain ⟨-, hsink⟩ := Channel.receive_eq_item_iff.mp hr
  refine ⟨p, plan, taken, hP, hplan, hlingers, hfaithful.next (.receive hopen hr) ?_⟩
  rw [hsink]
  exact hopen

theorem Plays.seeEnd (h : Plays P received sawEnd t) (hs : t.stage = .streaming feed relay)
    (hr : relay.sink.receive = .closed) : Plays P received true t := by
  obtain ⟨p, plan, taken, hP, hplan, hlingers, hfaithful⟩ := plays_streaming h hs
  have hopen := hfaithful.receiverOpen
  rw [Plays, hs]
  exact ⟨p, plan, taken, hP, hplan, hlingers, hfaithful.next (.seeEnd hopen hr) hopen⟩

end Service

end Parley
