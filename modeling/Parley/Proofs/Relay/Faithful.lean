import Parley.Proofs.Relay.Delivery
import Parley.Proofs.Relay.Headway

/-! # What the relay says is what it was told

Beside other turns the archive can change between any two steps of a relay. What the relay has
gathered does not depend on it: at the end the text of the reply is that of the increments taken,
and these are the whole stream, up to the increment that ends it.
-/

namespace Parley.Relay.Scene

open Increment

variable {w w' : Scene} {r : Relay} {a : Archive} {src : List Increment}

def Ends (src : List Increment) (w : Scene) : Outcome → Prop
  | .completed text _ => w.EndsWith isLast ∧ text = gathered w.taken
  | .hungUp text _ => Calm w.taken ∧ w.taken = src ∧ text = gathered w.taken
  | .failed _ => w.EndsWith isError
  | .cancelled => w.cancelled = true

def Gathers (src : List Increment) (w : Scene) : Stage → Prop
  | .awaiting => Calm w.taken ∧ w.relay.text = gathered w.taken
  | .holding i => ∃ is, w.taken = is ++ [i] ∧ Calm is ∧ w.relay.text = gathered is
  | .forwarding i _ => (∃ is, w.taken = is ++ [i] ∧ Calm is) ∧ w.relay.text = gathered w.taken
  | .broken => w.EndsWith isError
  | .hungUp => Calm w.taken ∧ w.taken = src ∧ w.relay.text = gathered w.taken
  | .closing o | .ended o => w.Ends src o

/-- The reader knows of the failure that ended the relay. -/
def Reports (w : Scene) : Stage → Prop
  | .closing (.failed _) | .ended (.failed _) =>
    ∃ i ∈ w.received ++ w.relay.sink.items, i.isError = true
  | _ => True

theorem Gathers.await (hflows : w.Flows src) (hs : w.relay.stage = .awaiting)
    (h : w.Gathers src w.relay.stage) (hm : Move w.cancelled w.relay w.archive r a) :
    (w.stepped r a).Gathers src r.stage := by
  rw [hs] at h
  obtain ⟨hcalm, htext⟩ := h
  rw [stepped, if_pos hs]
  cases hm with
  | cancel _ hc => exact hc
  | take => exact ⟨w.taken, rfl, hcalm, htext⟩
  | hangUp _ _ hr =>
    simp only [Stage.inHand, List.append_nil]
    exact ⟨hcalm, hflows.taken_eq hs hr, htext⟩
  | _ => simp_all

theorem Gathers.passed {i : Increment} {p : Bool} (ht : r.text = w.relay.text)
    (h : w.Gathers src (.forwarding i p)) :
    Gathers src { w with relay := r.passed i p } (r.passed i p).stage := by
  obtain ⟨⟨is, htaken, hcalm⟩, htext⟩ := h
  rcases i.kinds with ⟨he, hl, -⟩ | ⟨he, hl, -⟩ | ⟨he, hl, hi⟩ <;>
    simp only [Relay.passed, he, hl, Bool.false_eq_true, if_false, if_true]
  · exact ⟨is, i, htaken, hcalm, he⟩
  · exact ⟨⟨is, i, htaken, hcalm, hl⟩, ht.trans htext⟩
  · exact ⟨htaken ▸ hcalm.concat hi, ht.trans htext⟩

theorem Gathers.withdrawn {i : Increment} {p : Bool} (hc : w.cancelled = true)
    (h : w.Gathers src (.forwarding i p)) :
    Gathers src { w with relay := w.relay.withdrawn i p } (w.relay.withdrawn i p).stage := by
  obtain ⟨⟨is, htaken, hcalm⟩, htext⟩ := h
  cases hl : i.isLast <;> simp only [Relay.withdrawn, hl, Bool.false_eq_true, if_false, if_true]
  · exact hc
  · exact ⟨⟨is, i, htaken, hcalm, hl⟩, htext⟩

theorem Gathers.relay (hflows : w.Flows src) (h : w.Gathers src w.relay.stage)
    (hm : Move w.cancelled w.relay w.archive r a) : (w.stepped r a).Gathers src r.stage := by
  by_cases hs : w.relay.stage = .awaiting
  · exact h.await hflows hs hm
  rw [stepped, if_neg hs, List.append_nil]
  cases hm with
  | cancel h' | take h' | hangUp h' => exact absurd h' hs
  | holdFailure hs he =>
    rw [hs] at h
    obtain ⟨is, htaken, hcalm, htext⟩ := h
    have hsame : gathered w.taken = gathered is := by rw [htaken, gathered_concat_failure he]
    exact ⟨⟨is, htaken, hcalm⟩, htext.trans hsame.symm⟩
  | @gather i hs ht =>
    rw [hs] at h
    obtain ⟨is, htaken, hcalm, htext⟩ := h
    have he : i.isError = false := by simp_all [isTerminal]
    exact ⟨⟨is, htaken, hcalm⟩, by rw [htaken, gathered_concat he, ← htext]⟩
  | @complete i _ _ hs hl =>
    rw [hs] at h
    obtain ⟨is, htaken, hcalm, htext⟩ := h
    have he : i.isError = false := by simp_all [isLast]
    exact ⟨⟨is, htaken, hcalm⟩, by rw [htaken, gathered_concat he, ← htext]⟩
  | skip hs | pass hs | loseReader hs =>
    rw [hs] at h
    exact Gathers.passed rfl h
  | withdraw hs _ hc =>
    rw [hs] at h
    exact Gathers.withdrawn hc h
  | keepPartial hs | dropPartial hs | keepRest hs | finish hs =>
    rw [hs] at h
    exact h

theorem Gathers.congr {stage : Stage} (h : w.Gathers src stage) (ht : w'.taken = w.taken)
    (htext : w'.relay.text = w.relay.text) (hc : w.cancelled = true → w'.cancelled = true) :
    w'.Gathers src stage := by
  have hend {kind : Increment → Bool} (he : w.EndsWith kind) : w'.EndsWith kind := by
    obtain ⟨is, i, hi, hcalm, hk⟩ := he
    exact ⟨is, i, ht.trans hi, hcalm, hk⟩
  cases stage with
  | broken => exact hend h
  | closing o | ended o =>
    cases o with
    | completed => exact ⟨hend h.1, ht ▸ h.2⟩
    | hungUp =>
      obtain ⟨hcalm, hsrc, hg⟩ := h
      rw [← ht] at hcalm hsrc hg
      exact ⟨hcalm, hsrc, hg⟩
    | failed => exact hend h
    | cancelled => exact hc h
  | _ =>
    simp only [Gathers, ht, htext] at h ⊢
    exact h

theorem Reports.relay (hopen : w.relay.sink.receiverOpen = true) (hd : w.InOrder)
    (hg : w.Gathers src w.relay.stage) (h : w.Reports w.relay.stage)
    (hm : Move w.cancelled w.relay w.archive r a) : (w.stepped r a).Reports r.stage := by
  have hbroken (hs : w.relay.stage = .broken) :
      ∃ i ∈ w.received ++ w.relay.sink.items, i.isError = true := by
    rw [hs] at hg
    obtain ⟨is, htaken, -, heq⟩ := hd
    obtain ⟨js, i, hi, -, he⟩ := hg
    have hall := heq hopen (by simp [hs, Stage.isOver])
    rw [hs, hi] at htaken
    simp only [Stage.inHand, List.append_nil] at htaken
    refine ⟨i, ?_, he⟩
    rw [hall, ← htaken]
    exact List.mem_concat_self
  cases hm with
  | @skip i p | @pass i p | @loseReader i p =>
    rcases i.kinds with ⟨he, hl, -⟩ | ⟨he, hl, -⟩ | ⟨he, hl, -⟩ <;>
      simp only [Relay.passed, he, hl, Bool.false_eq_true, if_false, if_true] <;> trivial
  | @withdraw i p =>
    cases hl : i.isLast <;>
      simp only [Relay.withdrawn, hl, Bool.false_eq_true, if_false, if_true] <;> trivial
  | keepPartial hs | dropPartial hs => exact hbroken hs
  | @finish o hs =>
    rw [hs] at h
    cases o with
    | failed => exact h
    | _ => trivial
  | _ => trivial

/-- A relay whose reader stays, whatever becomes of the archive. -/
structure Faithful (src : List Increment) (w : Scene) : Prop where
  receiverOpen : w.relay.sink.receiverOpen = true
  able : w.relay.Able
  flows : w.Flows src
  delivers : w.Delivers
  gathers : w.Gathers src w.relay.stage
  reports : w.Reports w.relay.stage

theorem faithful_start (session : SessionId) (policy : PartialPolicy) (sourceRoom sinkRoom : Nat)
    (a : Archive) (src : List Increment) :
    (start session policy sourceRoom sinkRoom a src).Faithful src where
  receiverOpen := rfl
  able := able_between session policy sourceRoom sinkRoom
  flows := (sound_start session policy sourceRoom sinkRoom a src).flows
  delivers := delivers_start ..
  gathers := ⟨calm_nil, rfl⟩
  reports := trivial

theorem Faithful.setArchive (h : w.Faithful src) (a : Archive) :
    Faithful src { w with archive := a } where
  receiverOpen := h.receiverOpen
  able := h.able
  flows := ⟨h.flows.taken_prefix, h.flows.inOrder, h.flows.listening, h.flows.allSent⟩
  delivers := ⟨h.delivers.inOrder, h.delivers.gone, h.delivers.closed, h.delivers.seen⟩
  gathers := h.gathers.congr rfl rfl id
  reports := h.reports

theorem receiverOpen_relay (h : w.relay.sink.receiverOpen = true)
    (hm : Move w.cancelled w.relay w.archive r a) : r.sink.receiverOpen = true := by
  cases hm with
  | pass _ _ _ hr =>
    obtain ⟨hopen, -, rfl⟩ := Channel.send_eq_sent_iff.mp hr
    simpa using hopen
  | loseReader _ _ _ hr => simp [Channel.send_eq_closed_iff, h] at hr
  | skip | withdraw => simpa using h
  | _ => exact h

theorem able_next (h : w.relay.Able) (hn : Next w w') : w'.relay.Able := by
  obtain ⟨hsource, hsink, hleaves⟩ := h
  cases hn with
  | send _ hs =>
    obtain ⟨-, -, rfl⟩ := Channel.send_eq_sent_iff.mp hs
    exact ⟨hsource, hsink, hleaves⟩
  | relay hm => exact hm.able ⟨hsource, hsink, hleaves⟩
  | receive _ hr =>
    obtain ⟨-, he⟩ := Channel.receive_eq_item_iff.mp hr
    rw [he]
    exact ⟨hsource, hsink, hleaves⟩
  | giveUp | hangUp | seeEnd | leave | cancel => exact ⟨hsource, hsink, hleaves⟩

/-- Whoever acts, a relay stays faithful as long as its reader stays. -/
theorem Faithful.next (h : w.Faithful src) (hn : Next w w')
    (hopen : w'.relay.sink.receiverOpen = true) : w'.Faithful src := by
  refine ⟨hopen, able_next h.able hn, h.flows.next hn, h.delivers.next hn, ?_, ?_⟩
  · have hg := h.gathers
    cases hn with
    | relay hm => exact hg.relay h.flows hm
    | cancel => exact hg.congr rfl rfl fun _ => rfl
    | _ => exact hg.congr rfl rfl id
  · have hr := h.reports
    cases hn with
    | relay hm => exact hr.relay h.receiverOpen h.delivers.inOrder h.gathers hm
    | receive _ hi =>
      obtain ⟨hitems, -⟩ := Channel.receive_eq_item_iff.mp hi
      dsimp only
      cases hs : w.relay.stage with
      | closing o | ended o =>
        rw [hs] at hr
        cases o with
        | failed => simpa [Reports, hitems] using hr
        | _ => trivial
      | _ => trivial
    | leave => cases hopen
    | _ => exact hr

theorem Faithful.taken_eq {o : Outcome} (h : w.Faithful src) (ho : w.relay.stage = .ended o)
    (hc : w.cancelled = false) : w.taken = upToTerminal src := by
  have hends := h.gathers
  rw [ho] at hends
  cases o with
  | completed => exact hends.1.taken_eq (fun _ => isTerminal_of_isLast) h.flows.taken_prefix
  | hungUp =>
    obtain ⟨hcalm, rfl, -⟩ := hends
    exact (upToTerminal_of_calm hcalm).symm
  | failed => exact hends.taken_eq (fun _ => isTerminal_of_isError) h.flows.taken_prefix
  | cancelled =>
    have hcancelled : w.cancelled = true := hends
    simp [hc] at hcancelled

end Parley.Relay.Scene
