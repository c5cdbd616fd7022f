import Parley.Proofs.Turn.Expects
import Parley.Proofs.Turn.Stream

/-! # Turns that get on

A turn that is to get a reply never gets stuck. From some moment on its call can make the next step;
and when its reader has received everything so far, the feed or the relay can, until the stream is
over. Every such step leaves less to do.
-/

namespace Parley

def Turn.Stage.callsLeft : Turn.Stage → Nat
  | .asked _ => 3
  | .generating .. => 2
  | .replied _ => 1
  | .answered _ | .streaming .. => 0

def Feed.toDo (feed : Feed) (relay : Relay) : Nat :=
  5 * feed.increments.length + (if relay.source.senderOpen then 1 else 0) + relay.toDo

namespace Service

open Turn (Expects)

variable {s s' : Service} {t t' : Turn} {feed : Feed} {relay relay' : Relay} {a a' : Archive}
  {c sawEnd streaming : Bool} {received : List Increment} {reply : String}
  {rest script : List Performance}

theorem CallMove.callsLeft_lt (hm : CallMove s t t' s') :
    t'.stage.callsLeft < t.stage.callsLeft := by
  cases hm <;> simp [Turn.Stage.callsLeft, *]

theorem callStep_isSome (s : Service) (hd : t.delivery = if streaming then .streaming else .blocking)
    (h : Expects streaming reply rest script c t.stage) (hleft : t.stage.callsLeft ≠ 0) :
    ∃ due, ∀ now, due ≤ now → (callStep { s with now } t).isSome := by
  cases hs : t.stage with
  | asked text => exact ⟨0, fun now _ => by simp [callStep, hs]⟩
  | generating p due =>
    refine ⟨due, fun now hnow => ?_⟩
    rw [hs] at h
    obtain ⟨-, hp⟩ := h
    have hdue : ¬ now < due := by omega
    cases streaming with
    | true =>
      have hdelivery : t.delivery = .streaming := hd
      simp only [callStep, hs, hdelivery, Performance.stream?, if_neg hdue]
      split <;> rfl
    | false =>
      have hdelivery : t.delivery = .blocking := hd
      have hwhole : p.whole = .reply reply := by simpa [Performance.Gives] using hp
      simp only [callStep, hs, hdelivery, Performance.reply?, if_neg hdue, hwhole]
      split <;> rfl
  | replied answer => exact ⟨0, fun now _ => by simp [callStep, hs]⟩
  | answered | streaming => simp [hs, Turn.Stage.callsLeft] at hleft

theorem feedStep_toDo_lt (h : s.feedStep t feed relay = some t') :
    ∃ feed' relay', t' = { t with stage := .streaming feed' relay' } ∧
      feed'.toDo relay' < feed.toDo relay := by
  unfold feedStep at h
  split at h
  · cases h
  · next hwait =>
    have hsender : relay.source.senderOpen = true := by
      by_contra hc
      simp [hc] at hwait
    split at h
    · next ms i rest hi =>
      split at h
      · next source hsend =>
        obtain ⟨-, -, rfl⟩ := Channel.send_eq_sent_iff.mp hsend
        refine ⟨_, _, (Option.some.inj h).symm, ?_⟩
        simp only [Feed.toDo, Relay.toDo, hi, hsender, List.length_append, List.length_cons,
          List.length_nil, if_true]
        omega
      · refine ⟨_, _, (Option.some.inj h).symm, ?_⟩
        simp [Feed.toDo, Relay.toDo, hsender, Channel.closeSender]
      · cases h
    · split at h
      · cases h
      · refine ⟨_, _, (Option.some.inj h).symm, ?_⟩
        simp [Feed.toDo, Relay.toDo, hsender, Channel.closeSender]

theorem feedStep_isSome (hroom : 0 < relay.source.capacity)
    (hlistening : relay.source.receiverOpen = true) (hr : relay.source.receive = .empty)
    (hleaves : feed.increments = [] → feed.lingers = false) (hdue : feed.due ≤ s.now) :
    (s.feedStep t feed relay).isSome := by
  obtain ⟨hitems, hsender⟩ := Channel.receive_eq_empty_iff.mp hr
  have hnow : ¬ s.now < feed.due := by omega
  unfold feedStep
  simp only [hsender, hnow, Bool.not_true, decide_false, Bool.or_self, Bool.false_eq_true, if_false]
  split
  · next ms i rest hi =>
    have hsend : relay.source.send i = .sent { relay.source with items := relay.source.items ++ [i] } :=
      Channel.send_eq_sent_iff.mpr ⟨hlistening, by simpa [hitems] using hroom, rfl⟩
    simp [hsend]
  · next hi => simp [hleaves hi]

theorem lingers_eq_false {plan : StreamPlan} {taken : List Increment} (hplan : plan.Ends)
    (h : Relay.Scene.Faithful (plan.increments.map (·.2))
      (scene feed relay c taken received sawEnd a))
    (hlingers : feed.lingers = plan.lingers) (hs : relay.stage = .awaiting)
    (hitems : relay.source.items = []) (hi : feed.increments = []) : feed.lingers = false := by
  rcases hplan with hleaves | ⟨i, hmem, hterminal⟩
  · exact hlingers.trans hleaves
  · have hover : (scene feed relay c taken received sawEnd a).relay.stage.isOver = false := by
      simp [scene, hs, Relay.Stage.isOver]
    have horder := h.flows.inOrder hover
    have hgathers := h.gathers
    simp only [scene, hitems, hi, List.map_nil, List.append_nil] at horder
    simp only [scene, hs] at hgathers
    obtain ⟨hcalm, -⟩ := hgathers
    have hnot := hcalm i.2 (by rw [horder]; exact List.mem_map_of_mem hmem)
    simp [hnot] at hterminal

/-- When the reader of a stream has received everything so far, the stream gets on. -/
theorem Plays.gets_on {P : Performance → Prop}
    (hends : ∀ p plan, P p → p.streamed = .ok plan → plan.Ends) (s : Service)
    (h : Plays P received sawEnd t) (hs : t.stage = .streaming feed relay)
    (hr : relay.sink.receive = .empty) :
    ∃ part due, ∀ now, due ≤ now → ∃ feed' relay' s',
      turnStep { s with now } t part = some ({ t with stage := .streaming feed' relay' }, s') ∧
        feed'.toDo relay' < feed.toDo relay := by
  obtain ⟨p, plan, taken, hP, hplan, hlingers, hfaithful⟩ := plays_streaming h hs
  obtain ⟨hitems, hsender⟩ := Channel.receive_eq_empty_iff.mp hr
  have hable : relay.Able := hfaithful.able
  rcases hable.step_cases (fun _ => hitems) t.cancelled s.archive with hstep | ⟨o, ho⟩ | ⟨hawaiting, hempty⟩
  · obtain ⟨⟨relay', a'⟩, hstep⟩ := Option.isSome_iff_exists.mp hstep
    refine ⟨.relay, 0, fun now _ => ⟨feed, relay', { s with now, archive := a' }, ?_, ?_⟩⟩
    · simp [turnStep, hs, hstep]
    · have hmove := Relay.step_move hstep
      have hlt := hmove.toDo_lt
      simp only [Feed.toDo, hmove.senderOpen_eq]
      omega
  · simp [hable.leaves o ho] at hsender
  · refine ⟨.feed, feed.due, fun now hnow => ?_⟩
    have hlistening : relay.source.receiverOpen = true :=
      hfaithful.flows.listening (by simp [scene, hawaiting, Relay.Stage.isOver])
    obtain ⟨hsource, -⟩ := Channel.receive_eq_empty_iff.mp hempty
    have hsome := feedStep_isSome (s := { s with now }) (t := t) hable.sourceRoom hlistening hempty
      (lingers_eq_false (hends p plan hP hplan) hfaithful hlingers hawaiting hsource) hnow
    obtain ⟨t', ht'⟩ := Option.isSome_iff_exists.mp hsome
    obtain ⟨feed', relay', rfl, hlt⟩ := feedStep_toDo_lt ht'
    exact ⟨feed', relay', { s with now }, by simp [turnStep, hs, ht'], hlt⟩

end Service

end Parley
