import Parley.Proofs.Archive.Growth
import Parley.Proofs.Relay.Scene

/-! # The relay records once

Whatever the generator sends, whenever the reader leaves and wherever a cancellation falls, a relay
asks the store for one addition at most. It is the reply as far as it was taken, and the outcome
tells whether the store kept it. A turn that is cancelled in time leaves no reply behind.
-/

namespace Parley.Relay.Scene

open Increment

variable {w w' : Scene} {a₀ : Archive} {session : SessionId} {src : List Increment}

/-- The generator has been calm until an increment of some kind, the last one taken. -/
def EndsWith (w : Scene) (kind : Increment → Bool) : Prop :=
  ∃ is i, w.taken = is ++ [i] ∧ Calm is ∧ kind i = true

/-- The store was asked to add what was taken, with this answer. -/
def Recorded (session : SessionId) (a₀ : Archive) (w : Scene) (persisted : Bool) : Prop :=
  (a₀.append session .assistant (gathered w.taken)).1.isOk = persisted ∧
    w.archive = (a₀.append session .assistant (gathered w.taken)).2

def Concluded (session : SessionId) (a₀ : Archive) (src : List Increment) (w : Scene) :
    Outcome → Prop
  | .completed _ p => w.EndsWith isLast ∧ w.Recorded session a₀ p
  | .hungUp _ p => Calm w.taken ∧ w.taken = src ∧ w.Recorded session a₀ p
  | .failed p => w.EndsWith isError ∧ (w.Recorded session a₀ p ∨ p = false ∧ w.archive = a₀)
  | .cancelled => Calm w.taken.dropLast ∧ w.archive = a₀ ∧ w.cancelled = true

def Stands (session : SessionId) (a₀ : Archive) (src : List Increment) (w : Scene) : Stage → Prop
  | .awaiting => Calm w.taken ∧ w.relay.text = gathered w.taken ∧ w.archive = a₀
  | .holding i =>
    ∃ is, w.taken = is ++ [i] ∧ Calm is ∧ w.relay.text = gathered is ∧ w.archive = a₀
  | .forwarding i p =>
    (∃ is, w.taken = is ++ [i] ∧ Calm is) ∧ w.relay.text = gathered w.taken ∧
      if i.isLast then w.Recorded session a₀ p else w.archive = a₀
  | .broken => w.EndsWith isError ∧ w.relay.text = gathered w.taken ∧ w.archive = a₀
  | .hungUp =>
    Calm w.taken ∧ w.taken = src ∧ w.relay.text = gathered w.taken ∧ w.archive = a₀
  | .closing o | .ended o => w.Concluded session a₀ src o

/-- Nothing is lost on the way from the generator to the relay, and the generator leaves only when
it has sent everything. -/
structure Flows (src : List Increment) (w : Scene) : Prop where
  taken_prefix : w.taken <+: src
  inOrder : w.relay.stage.isOver = false → w.taken ++ w.relay.source.items ++ w.unsent = src
  listening : w.relay.stage.isOver = false → w.relay.source.receiverOpen = true
  allSent : w.relay.stage.isOver = false → w.relay.source.senderOpen = false → w.unsent = []

theorem Flows.relay {r : Relay} {a : Archive} (h : w.Flows src)
    (hm : Move w.cancelled w.relay w.archive r a) : (w.stepped r a).Flows src := by
  by_cases hs : w.relay.stage = .awaiting
  · have horder := h.inOrder (by rw [hs]; rfl)
    have hlistening := h.listening (by rw [hs]; rfl)
    have hsent := h.allSent (by rw [hs]; rfl)
    rw [stepped, if_pos hs]
    cases hm with
    | cancel =>
      exact ⟨by simpa [Stage.inHand] using h.taken_prefix, by simp [Stage.isOver],
        by simp [Stage.isOver], by simp [Stage.isOver]⟩
    | take _ _ hr =>
      obtain ⟨hi, hsource⟩ := Channel.receive_eq_item_iff.mp hr
      rw [hi] at horder
      rw [hsource]
      exact ⟨⟨_, by simpa [Stage.inHand] using horder⟩,
        fun _ => by simpa [Stage.inHand] using horder, fun _ => hlistening, fun _ => hsent⟩
    | hangUp =>
      exact ⟨by simpa [Stage.inHand] using h.taken_prefix,
        fun _ => by simpa [Stage.inHand] using horder, fun _ => hlistening, fun _ => hsent⟩
    | _ => simp_all
  · rw [stepped, if_neg hs, List.append_nil]
    refine ⟨h.taken_prefix, fun ho => ?_, fun ho => ?_, fun ho => ?_⟩ <;>
      obtain ⟨he, hw⟩ := hm.source_eq hs ho
    · simpa only [he] using h.inOrder hw
    · simpa only [he] using h.listening hw
    · simpa only [he] using h.allSent hw

theorem Flows.next (h : w.Flows src) (hn : Next w w') : w'.Flows src := by
  cases hn with
  | send hu hsend =>
    obtain ⟨-, -, rfl⟩ := Channel.send_eq_sent_iff.mp hsend
    exact ⟨h.taken_prefix, fun ho => by simpa [hu] using h.inOrder ho, h.listening,
      fun ho hc => by simpa [hu] using h.allSent ho hc⟩
  | giveUp hsend =>
    have hc := Channel.send_eq_closed_iff.mp hsend
    exact ⟨h.taken_prefix, h.inOrder, h.listening,
      fun ho => by simpa [hc] using h.listening ho⟩
  | hangUp hu => exact ⟨h.taken_prefix, h.inOrder, h.listening, fun _ _ => hu⟩
  | relay hm => exact h.relay hm
  | receive | seeEnd | leave | cancel =>
    exact ⟨h.taken_prefix, h.inOrder, h.listening, h.allSent⟩

theorem Flows.taken_eq (h : w.Flows src) (hs : w.relay.stage = .awaiting)
    (hr : w.relay.source.receive = .closed) : w.taken = src := by
  obtain ⟨hitems, hopen⟩ := Channel.receive_eq_closed_iff.mp hr
  have horder := h.inOrder (by rw [hs]; rfl)
  have hunsent := h.allSent (by rw [hs]; rfl) hopen
  simpa only [hitems, hunsent, List.append_nil] using horder

theorem Stands.passed {r : Relay} {i : Increment} {p : Bool} (ht : r.text = w.relay.text)
    (h : w.Stands session a₀ src (.forwarding i p)) :
    Stands session a₀ src { w with relay := r.passed i p } (r.passed i p).stage := by
  obtain ⟨⟨is, htaken, hcalm⟩, htext, ha⟩ := h
  rcases i.kinds with ⟨he, hl, -⟩ | ⟨he, hl, -⟩ | ⟨he, hl, hi⟩ <;>
    simp only [Relay.passed, he, hl, Bool.false_eq_true, if_false, if_true] at ha ⊢
  · exact ⟨⟨is, i, htaken, hcalm, he⟩, ht.trans htext, ha⟩
  · exact ⟨⟨is, i, htaken, hcalm, hl⟩, ha⟩
  · exact ⟨htaken ▸ hcalm.concat hi, ht.trans htext, ha⟩

theorem Stands.withdrawn {i : Increment} {p : Bool} (hc : w.cancelled = true)
    (h : w.Stands session a₀ src (.forwarding i p)) :
    Stands session a₀ src { w with relay := w.relay.withdrawn i p }
      (w.relay.withdrawn i p).stage := by
  obtain ⟨⟨is, htaken, hcalm⟩, htext, ha⟩ := h
  cases hl : i.isLast <;>
    simp only [Relay.withdrawn, hl, Bool.false_eq_true, if_false, if_true] at ha ⊢
  · exact ⟨by simpa [htaken] using hcalm, ha, hc⟩
  · exact ⟨⟨is, i, htaken, hcalm, hl⟩, ha⟩

theorem recorded_of_record {text : String} {p : Bool} {a : Archive}
    (ht : text = gathered w.taken) (hr : w.relay.record a₀ text = (p, a)) :
    (a₀.append w.relay.session .assistant (gathered w.taken)).1.isOk = p ∧
      a = (a₀.append w.relay.session .assistant (gathered w.taken)).2 := by
  subst ht
  obtain ⟨h, h'⟩ := Prod.mk.inj ((record_eq ..).symm.trans hr)
  exact ⟨h, h'.symm⟩

theorem Stands.relay {r : Relay} {a : Archive} (hflows : w.Flows src)
    (h : w.Stands w.relay.session a₀ src w.relay.stage)
    (hm : Move w.cancelled w.relay w.archive r a) :
    (w.stepped r a).Stands w.relay.session a₀ src r.stage := by
  by_cases hs : w.relay.stage = .awaiting
  · rw [hs] at h
    obtain ⟨hcalm, htext, ha⟩ := h
    rw [stepped, if_pos hs]
    cases hm with
    | cancel _ hc =>
      refine ⟨?_, ha, hc⟩
      simpa [Stage.inHand] using hcalm.dropLast
    | take => exact ⟨w.taken, rfl, hcalm, htext, ha⟩
    | hangUp _ _ hr =>
      simp only [Stage.inHand, List.append_nil]
      exact ⟨hcalm, hflows.taken_eq hs hr, htext, ha⟩
    | _ => simp_all
  · rw [stepped, if_neg hs, List.append_nil]
    cases hm with
    | cancel h' | take h' | hangUp h' => exact absurd h' hs
    | holdFailure hs he =>
      rw [hs] at h
      obtain ⟨is, htaken, hcalm, htext, ha⟩ := h
      refine ⟨⟨is, htaken, hcalm⟩, ?_, ?_⟩
      · rw [htaken, gathered_concat_failure he]
        exact htext
      · simpa [isLast, he] using ha
    | @gather i hs ht =>
      rw [hs] at h
      obtain ⟨is, htaken, hcalm, htext, ha⟩ := h
      have he : i.isError = false := by simp_all [isTerminal]
      refine ⟨⟨is, htaken, hcalm⟩, ?_, ?_⟩
      · rw [htaken, gathered_concat he, ← htext]
      · have hl : i.isLast = false := by simp_all [isLast, isTerminal]
        simpa [hl] using ha
    | @complete i _ _ hs hl hr =>
      rw [hs] at h
      obtain ⟨is, htaken, hcalm, htext, rfl⟩ := h
      have he : i.isError = false := by simp_all [isLast]
      have hg : w.relay.text ++ i.text = gathered w.taken := by
        rw [htaken, gathered_concat he, ← htext]
      refine ⟨⟨is, htaken, hcalm⟩, hg, ?_⟩
      rw [if_pos hl]
      exact recorded_of_record hg hr
    | skip hs | pass hs | loseReader hs =>
      rw [hs] at h
      exact Stands.passed rfl h
    | withdraw hs _ hc =>
      rw [hs] at h
      exact Stands.withdrawn hc h
    | keepPartial hs _ _ hr =>
      rw [hs] at h
      obtain ⟨hend, htext, rfl⟩ := h
      exact ⟨hend, .inl (recorded_of_record htext hr)⟩
    | dropPartial hs =>
      rw [hs] at h
      obtain ⟨hend, -, ha⟩ := h
      exact ⟨hend, .inr ⟨rfl, ha⟩⟩
    | keepRest hs hr =>
      rw [hs] at h
      obtain ⟨hcalm, hsrc, htext, rfl⟩ := h
      exact ⟨hcalm, hsrc, recorded_of_record htext hr⟩
    | finish hs =>
      rw [hs] at h
      exact h

theorem Stands.cancel {stage : Stage} (h : w.Stands session a₀ src stage) :
    Stands session a₀ src { w with cancelled := true } stage := by
  cases stage with
  | closing o | ended o =>
    cases o with
    | cancelled => exact ⟨h.1, h.2.1, rfl⟩
    | _ => exact h
  | _ => exact h

structure Sound (session : SessionId) (a₀ : Archive) (src : List Increment) (w : Scene) : Prop where
  session_eq : w.relay.session = session
  flows : w.Flows src
  stands : w.Stands session a₀ src w.relay.stage

theorem sound_start (session : SessionId) (policy : PartialPolicy) (sourceRoom sinkRoom : Nat)
    (a₀ : Archive) (src : List Increment) :
    (start session policy sourceRoom sinkRoom a₀ src).Sound session a₀ src where
  session_eq := rfl
  flows := ⟨List.nil_prefix, fun _ => rfl, fun _ => rfl, fun _ h => by cases h⟩
  stands := ⟨calm_nil, rfl, rfl⟩

theorem Sound.next (h : w.Sound session a₀ src) (hn : Next w w') : w'.Sound session a₀ src := by
  refine ⟨?_, h.flows.next hn, ?_⟩
  · cases hn with
    | relay hm => exact hm.session_eq.trans h.session_eq
    | _ => exact h.session_eq
  · -- of the acts only a step of the relay and the cancellation touch what its stage speaks of
    obtain ⟨rfl, hflows, hstands⟩ := h
    cases hn with
    | relay hm => exact hstands.relay hflows hm
    | cancel => exact hstands.cancel
    | _ => exact hstands

theorem sound_play {policy : PartialPolicy} {sourceRoom sinkRoom : Nat} {acts : List Act}
    (h : (start session policy sourceRoom sinkRoom a₀ src).play acts = some w) :
    w.Sound session a₀ src :=
  keeps_play Sound.next h (sound_start ..)

theorem Stands.calm_dropLast {stage : Stage} (h : w.Stands session a₀ src stage) :
    Calm w.taken.dropLast := by
  have hcut {is : List Increment} {i : Increment} (ht : w.taken = is ++ [i]) (hcalm : Calm is) :
      Calm w.taken.dropLast := by
    rw [ht, List.dropLast_concat]
    exact hcalm
  cases stage with
  | awaiting | hungUp => exact h.1.dropLast
  | holding =>
    obtain ⟨is, ht, hcalm, -⟩ := h
    exact hcut ht hcalm
  | forwarding =>
    obtain ⟨⟨is, ht, hcalm⟩, -⟩ := h
    exact hcut ht hcalm
  | broken =>
    obtain ⟨⟨is, i, ht, hcalm, -⟩, -⟩ := h
    exact hcut ht hcalm
  | closing o | ended o =>
    cases o with
    | completed | failed =>
      obtain ⟨⟨is, i, ht, hcalm, -⟩, -⟩ := h
      exact hcut ht hcalm
    | hungUp => exact h.1.dropLast
    | cancelled => exact h.1

theorem EndsWith.taken_eq {kind : Increment → Bool} (h : w.EndsWith kind)
    (hk : ∀ i, kind i = true → i.isTerminal = true) (hp : w.taken <+: src) :
    w.taken = upToTerminal src := by
  obtain ⟨is, i, ht, hcalm, hi⟩ := h
  obtain ⟨js, rfl⟩ := hp
  rw [ht, upToTerminal_eq_of_terminal hcalm (hk i hi)]

/-- The store is asked when the whole stream is taken. -/
theorem Stands.archive_cases {stage : Stage} (hp : w.taken <+: src)
    (h : w.Stands session a₀ src stage) :
    w.archive = a₀ ∨ w.taken = upToTerminal src ∧
      w.archive = (a₀.append session .assistant (gathered w.taken)).2 := by
  cases stage with
  | awaiting => exact .inl h.2.2
  | holding =>
    obtain ⟨_, _, _, _, ha⟩ := h
    exact .inl ha
  | forwarding i p =>
    obtain ⟨⟨is, ht, hcalm⟩, -, ha⟩ := h
    split at ha
    · next hl =>
      have hend : w.EndsWith isLast := ⟨is, i, ht, hcalm, hl⟩
      exact .inr ⟨hend.taken_eq (fun _ => isTerminal_of_isLast) hp, ha.2⟩
    · exact .inl ha
  | broken => exact .inl h.2.2
  | hungUp => exact .inl h.2.2.2
  | closing o | ended o =>
    cases o with
    | completed => exact .inr ⟨h.1.taken_eq (fun _ => isTerminal_of_isLast) hp, h.2.2⟩
    | hungUp => exact .inr ⟨h.2.1 ▸ (upToTerminal_of_calm h.1).symm, h.2.2.2⟩
    | failed =>
      rcases h.2 with hr | ⟨-, ha⟩
      · exact .inr ⟨h.1.taken_eq (fun _ => isTerminal_of_isError) hp, hr.2⟩
      · exact .inl ha
    | cancelled => exact .inl h.2.1

theorem Recorded.grew {p : Bool} (h : w.Recorded session a₀ p) :
    a₀.Grew w.archive session (if p then [(.assistant, gathered w.taken)] else []) := by
  obtain ⟨rfl, ha⟩ := h
  rw [ha]
  exact a₀.grew_append ..

theorem Concluded.grew {o : Outcome} (h : w.Concluded session a₀ src o) :
    a₀.Grew w.archive session
      (if o.persisted then [(.assistant, gathered w.taken)] else []) := by
  cases o with
  | completed => exact h.2.grew
  | hungUp => exact h.2.2.grew
  | failed p =>
    rcases h.2 with hr | ⟨rfl, ha⟩
    · exact hr.grew
    · exact ha ▸ .refl a₀ session
  | cancelled => exact h.2.1 ▸ .refl a₀ session

theorem EndsWith.not_calm {kind : Increment → Bool} (h : w.EndsWith kind)
    (hk : ∀ i, kind i = true → i.isTerminal = true) : ¬ Calm w.taken := by
  obtain ⟨is, i, ht, -, hi⟩ := h
  intro hcalm
  have hn := hcalm i (by simp [ht])
  simp [hk i hi] at hn

theorem Sound.isLost (h : w.Sound session a₀ src) (hcalm : Calm w.taken)
    (hs : w.relay.sawHangUp = false) : w.relay.stage.IsLost := by
  have hstands := h.stands
  rw [sawHangUp] at hs
  cases hstage : w.relay.stage with
  | awaiting => trivial
  | holding i =>
    rw [hstage] at hstands
    obtain ⟨is, ht, -⟩ := hstands
    exact hcalm i (by simp [ht])
  | forwarding i p =>
    rw [hstage] at hstands
    obtain ⟨⟨is, ht, -⟩, -⟩ := hstands
    exact hcalm i (by simp [ht])
  | broken =>
    rw [hstage] at hstands
    exact hstands.1.not_calm (fun _ => isTerminal_of_isError) hcalm
  | hungUp => simp [hstage] at hs
  | closing o | ended o =>
    rw [hstage] at hstands
    cases o with
    | completed => exact absurd hcalm (hstands.1.not_calm fun _ => isTerminal_of_isLast)
    | hungUp => simp [hstage] at hs
    | failed => exact absurd hcalm (hstands.1.not_calm fun _ => isTerminal_of_isError)
    | cancelled => rfl

/-- A cancelled turn whose reply is lost stays so. -/
theorem isLost_next (hn : Next w w') (h : w.cancelled = true ∧ w.relay.stage.IsLost) :
    w'.cancelled = true ∧ w'.relay.stage.IsLost := by
  obtain ⟨hc, h⟩ := h
  cases hn with
  | relay hm => exact ⟨hc, (hc ▸ hm).isLost h⟩
  | cancel => exact ⟨rfl, h⟩
  | _ => exact ⟨hc, h⟩

/-- A relay asks the store for one addition at most, of the reply as far as it was taken, and its
outcome tells what the store did. If the turn is cancelled before the end of the stream is seen,
the relay ends as cancelled. -/
theorem records_once {session : SessionId} {policy : PartialPolicy} {sourceRoom sinkRoom : Nat}
    {a₀ : Archive} {src : List Increment} {acts : List Act} {w : Scene}
    (h : (start session policy sourceRoom sinkRoom a₀ src).play acts = some w) :
    w.taken <+: upToTerminal src ∧
      (w.archive = a₀ ∨ w.taken = upToTerminal src ∧
        w.archive = (a₀.append session .assistant (gathered w.taken)).2) ∧
      w.archive.appends ≤ a₀.appends + 1 ∧
      (∀ o, w.relay.outcome? = some o →
        a₀.Grew w.archive session
            (if o.persisted then [(.assistant, gathered w.taken)] else []) ∧
          (o = .cancelled → w.archive = a₀)) ∧
      (w.cancelled = true → Calm w.taken → w.relay.sawHangUp = false →
        (w.relay.settle w.cancelled w.archive).1.outcome? = some .cancelled ∧
          ∀ acts' w', w.play acts' = some w' →
            ∀ o, w'.relay.outcome? = some o → o = .cancelled) := by
  have hsound := sound_play h
  have hcases := hsound.stands.archive_cases hsound.flows.taken_prefix
  refine ⟨?_, hcases, ?_, fun o ho => ?_, fun hc hcalm hs => ?_⟩
  · exact prefix_upToTerminal hsound.stands.calm_dropLast hsound.flows.taken_prefix
  · rcases hcases with ha | ⟨-, ha⟩ <;> simp [ha]
  · have hstands := hsound.stands
    rw [outcome?_eq_some_iff.mp ho] at hstands
    exact ⟨hstands.grew, fun hcancelled => by subst hcancelled; exact hstands.2.1⟩
  · have hlost := hsound.isLost hcalm hs
    rw [hc]
    refine ⟨outcome?_settle_of_isLost hlost, fun acts' w' h' o ho => ?_⟩
    have hlost' := keeps_play (fun hw hn => isLost_next hn hw) h' ⟨hc, hlost⟩
    rw [outcome?_eq_some_iff.mp ho] at hlost'
    exact hlost'.2

/-- A cancellation between the record of the reply and its last increment comes too late; after the
first increment it comes in time. -/
theorem records_once_hello :
    let archive : Archive := (Archive.create { clock := default }).2
    let scene := start (.ofSerial 1) .discard 1 1 archive [.ofText "Hel", .last "lo"]
    (∃ w, scene.play [.send, .relay, .relay, .relay, .receive, .send, .relay, .relay, .cancel,
          .relay, .relay] = some w ∧
        w.relay.outcome? = some (.completed "Hello" true) ∧
        archive.Grew w.archive (.ofSerial 1) [(.assistant, "Hello")]) ∧
      ∃ w, scene.play [.send, .relay, .relay, .cancel] = some w ∧
        (w.relay.settle w.cancelled w.archive).1.outcome? = some .cancelled := by
  intro archive scene
  constructor
  · obtain ⟨w, h, ho, ht⟩ : ∃ w, scene.play [.send, .relay, .relay, .relay, .receive, .send, .relay,
        .relay, .cancel, .relay, .relay] = some w ∧
        w.relay.outcome? = some (.completed "Hello" true) ∧
        w.taken = [.ofText "Hel", .last "lo"] := ⟨_, rfl, rfl, rfl⟩
    have hgrew := ((records_once h).2.2.2.1 _ ho).1
    rw [ht] at hgrew
    exact ⟨w, h, ho, hgrew⟩
  · obtain ⟨w, h, hc, ht, hs⟩ : ∃ w, scene.play [.send, .relay, .relay, .cancel] = some w ∧
        w.cancelled = true ∧ w.taken = [.ofText "Hel"] ∧ w.relay.sawHangUp = false :=
      ⟨_, rfl, rfl, rfl, rfl⟩
    have hcalm : Calm w.taken := by simp [ht, Calm, ofText, isTerminal, isError]
    exact ⟨w, h, ((records_once h).2.2.2.2 hc hcalm hs).1⟩

end Parley.Relay.Scene
