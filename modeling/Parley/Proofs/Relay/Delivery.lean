import Parley.Proofs.Relay.Recording

/-! # The relay delivers faithfully

The reader of a relay receives the increments of the generator one by one and in their order, up to
the first that ends the stream. When it has the last increment of a reply, or finds the channel
closed, nothing more will be recorded.
-/

namespace Parley.Relay.Scene

open Increment

variable {w w' : Scene} {r : Relay} {a a₀ : Archive} {session : SessionId} {src : List Increment}

/-- What was passed on has arrived or is on its way, unless the reader left or the turn was
cancelled. -/
def InOrder (w : Scene) : Prop :=
  ∃ is, w.taken = is ++ w.relay.stage.inHand ∧ w.received ++ w.relay.sink.items <+: is ∧
    (w.relay.sink.receiverOpen = true → (w.relay.stage.isOver = true → w.cancelled = false) →
      w.received ++ w.relay.sink.items = is)

structure Delivers (w : Scene) : Prop where
  inOrder : w.InOrder
  gone : w.relay.readerGone = true → w.relay.sink.receiverOpen = false
  closed : w.relay.sink.senderOpen = false →
    w.relay.readerGone = true ∨ ∃ o, w.relay.stage = .ended o
  seen : w.sawEnd = true → (∃ o, w.relay.stage = .ended o) ∧ w.relay.sink.items = [] ∧
    (w.cancelled = false → w.received = w.taken)

theorem delivers_start (session : SessionId) (policy : PartialPolicy) (sourceRoom sinkRoom : Nat)
    (a₀ : Archive) (src : List Increment) :
    (start session policy sourceRoom sinkRoom a₀ src).Delivers where
  inOrder := ⟨[], rfl, List.prefix_rfl, fun _ _ => rfl⟩
  gone h := by cases h
  closed h := by cases h
  seen h := by cases h

theorem InOrder.await (h : w.InOrder) (hs : w.relay.stage = .awaiting)
    (hm : Move w.cancelled w.relay w.archive r a) : (w.stepped r a).InOrder := by
  obtain ⟨is, htaken, hpre, heq⟩ := h
  rw [hs] at htaken heq
  obtain rfl : w.taken = is := by simpa [Stage.inHand] using htaken
  have hall (ho : w.relay.sink.receiverOpen = true) := heq ho (by simp [Stage.isOver])
  rw [stepped, if_pos hs]
  cases hm with
  | cancel _ hc => exact ⟨_, rfl, hpre, fun _ h => absurd (h rfl) (by simp [hc])⟩
  | take | hangUp => exact ⟨_, rfl, hpre, fun ho _ => hall ho⟩
  | _ => simp_all

theorem Delivers.inOrder_relay (h : w.Delivers) (hm : Move w.cancelled w.relay w.archive r a) :
    (w.stepped r a).InOrder := by
  by_cases hs : w.relay.stage = .awaiting
  · exact h.inOrder.await hs hm
  obtain ⟨is, htaken, hpre, heq⟩ := h.inOrder
  rw [stepped, if_neg hs, List.append_nil]
  cases hm with
  | cancel h | take h | hangUp h => exact absurd h hs
  | holdFailure hs | gather hs | complete hs | keepPartial hs | dropPartial hs | keepRest hs =>
    rw [hs] at htaken heq
    exact ⟨is, htaken, hpre, fun ho _ => heq ho (by simp [Stage.isOver])⟩
  | skip hs hg =>
    rw [hs] at htaken
    refine ⟨w.taken, by simp, ?_, fun ho => ?_⟩
    · simpa [htaken] using hpre.trans (List.prefix_append ..)
    · simp [h.gone hg] at ho
  | withdraw hs _ hc =>
    rw [hs] at htaken
    refine ⟨w.taken, by simp, ?_, fun _ h => ?_⟩
    · simpa [htaken] using hpre.trans (List.prefix_append ..)
    · simp [hc, isOver_withdrawn] at h
  | @pass i p _ hs _ _ hr =>
    rw [hs] at htaken heq
    obtain ⟨ho, -, rfl⟩ := Channel.send_eq_sent_iff.mp hr
    have hall : w.received ++ (w.relay.sink.items ++ [i]) = w.taken := by
      rw [← List.append_assoc, heq ho (by simp [Stage.isOver]), htaken]
      rfl
    exact ⟨w.taken, by simp, by simp [hall], fun _ _ => by simpa using hall⟩
  | loseReader hs _ _ hr =>
    rw [hs] at htaken
    refine ⟨w.taken, by simp, ?_, fun ho => ?_⟩
    · simpa [htaken, Channel.closeSender] using hpre.trans (List.prefix_append ..)
    · simp [Channel.closeSender, Channel.send_eq_closed_iff.mp hr] at ho
  | finish hs =>
    rw [hs] at htaken heq
    exact ⟨is, htaken, hpre, heq⟩

theorem Delivers.gone_relay (h : w.Delivers) (hm : Move w.cancelled w.relay w.archive r a)
    (hg : r.readerGone = true) : r.sink.receiverOpen = false := by
  cases hm with
  | pass _ hn => simp [hn] at hg
  | loseReader _ _ _ hr => simpa [Channel.closeSender] using Channel.send_eq_closed_iff.mp hr
  | skip | withdraw => simpa using h.gone (by simpa using hg)
  | _ => exact h.gone hg

theorem Delivers.closed_relay (h : w.Delivers) (hm : Move w.cancelled w.relay w.archive r a)
    (hc : r.sink.senderOpen = false) : r.readerGone = true ∨ ∃ o, r.stage = .ended o := by
  have hclosed (hs : w.relay.sink.senderOpen = false) : w.relay.readerGone = true := by
    rcases h.closed hs with hg | ⟨o, ho⟩
    · exact hg
    · exact absurd ho (hm.ne_ended o)
  cases hm with
  | pass _ _ _ hr =>
    obtain ⟨-, -, rfl⟩ := Channel.send_eq_sent_iff.mp hr
    exact .inl (by simpa using hclosed (by simpa using hc))
  | skip | withdraw => exact .inl (by simpa using hclosed (by simpa using hc))
  | loseReader => exact .inl (by simp)
  | finish => exact .inr ⟨_, rfl⟩
  | _ => exact .inl (hclosed hc)

theorem Delivers.next (h : w.Delivers) (hn : Next w w') : w'.Delivers := by
  obtain ⟨is, htaken, hpre, heq⟩ := h.inOrder
  cases hn with
  | send | giveUp | hangUp => exact ⟨h.inOrder, h.gone, h.closed, h.seen⟩
  | relay hm =>
    refine ⟨h.inOrder_relay hm, h.gone_relay hm, h.closed_relay hm, fun hs => ?_⟩
    obtain ⟨⟨o, ho⟩, -⟩ := h.seen hs
    exact absurd ho (hm.ne_ended o)
  | receive ho hr =>
    obtain ⟨hi, hsink⟩ := Channel.receive_eq_item_iff.mp hr
    rw [hsink]
    rw [hi] at hpre heq
    refine ⟨⟨is, htaken, by simpa using hpre, by simpa using heq⟩, h.gone, h.closed, fun hs => ?_⟩
    simpa [hi] using (h.seen hs).2.1
  | seeEnd ho hr =>
    obtain ⟨hitems, hsender⟩ := Channel.receive_eq_closed_iff.mp hr
    refine ⟨h.inOrder, h.gone, h.closed, fun _ => ?_⟩
    rcases h.closed hsender with hg | ⟨o, hs⟩
    · simp [h.gone hg] at ho
    · refine ⟨⟨o, hs⟩, hitems, fun hc => ?_⟩
      have hall := heq ho fun _ => hc
      simpa [hitems, hs, Stage.inHand, htaken] using hall
  | leave =>
    refine ⟨⟨is, htaken, ?_, fun ho => by cases ho⟩, fun _ => rfl, h.closed, fun hs => ?_⟩
    · simpa [Channel.closeReceiver] using (List.prefix_append ..).trans hpre
    · exact ⟨(h.seen hs).1, rfl, (h.seen hs).2.2⟩
  | cancel =>
    refine ⟨⟨is, htaken, hpre, fun ho hover => heq ho fun hs => ?_⟩, h.gone, h.closed,
      fun hs => ?_⟩
    · cases hover hs
    · exact ⟨(h.seen hs).1, (h.seen hs).2.1, fun hc => by cases hc⟩

theorem delivers_play {policy : PartialPolicy} {sourceRoom sinkRoom : Nat} {acts : List Act}
    (h : (start session policy sourceRoom sinkRoom a₀ src).play acts = some w) : w.Delivers :=
  keeps_play Delivers.next h (delivers_start ..)

theorem InOrder.received_prefix (h : w.InOrder) : w.received <+: w.taken := by
  obtain ⟨is, htaken, hpre, -⟩ := h
  rw [htaken]
  exact (List.prefix_append ..).trans (hpre.trans (List.prefix_append ..))

theorem Concluded.taken_eq {o : Outcome} (hp : w.taken <+: src)
    (h : w.Concluded session a₀ src o) (hc : w.cancelled = false) : w.taken = upToTerminal src := by
  cases o with
  | completed => exact h.1.taken_eq (fun _ => isTerminal_of_isLast) hp
  | hungUp => exact h.2.1 ▸ (upToTerminal_of_calm h.1).symm
  | failed => exact h.1.taken_eq (fun _ => isTerminal_of_isError) hp
  | cancelled => simp [h.2.2] at hc

theorem not_isLast_of_calm {is : List Increment} {i : Increment} (h : Calm is) (hi : i ∈ is) :
    i.isLast = false := by
  by_contra hl
  have hn := h i hi
  simp [isTerminal_of_isLast (by simpa using hl)] at hn

/-- When the reader has the last increment of a reply, the relay knows how it ends. -/
theorem isOver_of_received {i : Increment} (h : w.Stands session a₀ src w.relay.stage)
    (hd : w.InOrder) (hi : i ∈ w.received) (hl : i.isLast = true) :
    w.relay.stage.isOver = true := by
  obtain ⟨is, htaken, hpre, -⟩ := hd
  -- what was passed on comes before what is in hand, and until the relay is over that is calm
  have his : i ∈ is := hpre.subset (List.mem_append_left _ hi)
  have hcalm : ¬ Calm is := by
    intro hc
    simp [not_isLast_of_calm hc his] at hl
  cases hs : w.relay.stage with
  | closing | ended => rfl
  | awaiting | hungUp =>
    rw [hs] at h htaken
    simp only [Stage.inHand, List.append_nil] at htaken
    exact absurd (htaken ▸ h.1) hcalm
  | holding =>
    rw [hs] at h htaken
    obtain ⟨js, ht, hc, -⟩ := h
    rw [ht] at htaken
    exact absurd (List.append_cancel_right htaken ▸ hc) hcalm
  | forwarding =>
    rw [hs] at h htaken
    obtain ⟨⟨js, ht, hc⟩, -⟩ := h
    rw [ht] at htaken
    exact absurd (List.append_cancel_right htaken ▸ hc) hcalm
  | broken =>
    rw [hs] at h htaken
    obtain ⟨⟨js, e, ht, hc, he⟩, -⟩ := h
    simp only [Stage.inHand, List.append_nil] at htaken
    rw [← htaken, ht] at his
    rcases List.mem_append.mp his with hj | hj
    · simp [not_isLast_of_calm hc hj] at hl
    · obtain rfl := List.mem_singleton.mp hj
      simp [isLast, he] at hl

theorem isOver_next (hn : Next w w') (h : w.relay.stage.isOver = true ∧ w.archive = a) :
    w'.relay.stage.isOver = true ∧ w'.archive = a := by
  cases hn with
  | relay hm =>
    obtain ⟨rfl, o, -, rfl⟩ := hm.of_isOver h.1
    exact ⟨rfl, h.2⟩
  | _ => exact h

/-- The reader receives what the generator sends, up to the first terminal increment, and all of it
if nobody cancels the turn. From the last increment of a reply on, and from the closing of the
channel, the archive stays as it is. -/
theorem delivers_in_order {session : SessionId} {policy : PartialPolicy} {sourceRoom sinkRoom : Nat}
    {a₀ : Archive} {src : List Increment} {acts : List Act} {w : Scene}
    (h : (start session policy sourceRoom sinkRoom a₀ src).play acts = some w) :
    w.received <+: upToTerminal src ∧
      (w.cancelled = false → w.sawEnd = true → w.received = upToTerminal src) ∧
      ((∃ i ∈ w.received, i.isLast = true) ∨ w.sawEnd = true →
        ∀ acts' w', w.play acts' = some w' → w'.archive = w.archive) := by
  have hsound := sound_play h
  have hdelivers := delivers_play h
  refine ⟨?_, fun hc hs => ?_, fun hread acts' w' h' => ?_⟩
  · exact hdelivers.inOrder.received_prefix.trans
      (prefix_upToTerminal hsound.stands.calm_dropLast hsound.flows.taken_prefix)
  · obtain ⟨⟨o, ho⟩, -, hall⟩ := hdelivers.seen hs
    have hstands := hsound.stands
    rw [ho] at hstands
    exact (hall hc).trans (Concluded.taken_eq hsound.flows.taken_prefix hstands hc)
  · have hover : w.relay.stage.isOver = true := by
      rcases hread with ⟨i, hi, hl⟩ | hs
      · exact isOver_of_received hsound.stands hdelivers.inOrder hi hl
      · obtain ⟨⟨o, ho⟩, -⟩ := hdelivers.seen hs
        rw [ho]
        rfl
    exact (keeps_play (fun hw hn => isOver_next hn hw) h' ⟨hover, rfl⟩).2

/-- A stream that fails after a piece of text, with a reader that stays to the end. The piece that
is kept is in the archive before the reader sees the end. -/
theorem delivers_in_order_failure :
    let archive : Archive := (Archive.create { clock := default }).2
    let e : Error := .stream "reset" .none
    let scene := start (.ofSerial 1) .persist 1 1 archive [.ofText "Hel", .failed e, .last "lo"]
    ∃ w, scene.play [.send, .relay, .relay, .relay, .receive, .send, .relay, .send, .relay, .relay,
        .receive, .relay, .relay, .receive] = some w ∧
      w.received = [.ofText "Hel", .failed e] ∧
      w.archive.appends = archive.appends + 1 ∧
      ∀ acts' w', w.play acts' = some w' → w'.archive = w.archive := by
  intro archive e scene
  obtain ⟨w, h, hs, hc, ha⟩ : ∃ w, scene.play [.send, .relay, .relay, .relay, .receive, .send,
      .relay, .send, .relay, .relay, .receive, .relay, .relay, .receive] = some w ∧
      w.sawEnd = true ∧ w.cancelled = false ∧ w.archive.appends = archive.appends + 1 :=
    ⟨_, rfl, rfl, rfl, rfl⟩
  obtain ⟨-, hall, hfinal⟩ := delivers_in_order h
  exact ⟨w, h, hall hc hs, ha, hfinal (.inr hs)⟩

end Parley.Relay.Scene
