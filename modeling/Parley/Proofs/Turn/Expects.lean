import Parley.Proofs.Increments
import Parley.Proofs.Session.Turns
import Parley.Proofs.Turn.Onward

/-! # Turns that get their reply

A turn that nobody cancels gets the reply that the next performance of the generator gives, be it
asked for as a whole or as a stream, unless the history fails. Turns that are heard already leave the
generator alone.
-/

namespace Parley

/-- The generator leaves, or says before that its stream is over. -/
def StreamPlan.Ends (plan : StreamPlan) : Prop :=
  plan.lingers = false ∨ ∃ i ∈ plan.increments, i.2.isTerminal = true

/-- The stream comes to an end, up to there it does not fail, and its pieces make up the reply. -/
def StreamPlan.Spells (plan : StreamPlan) (reply : String) : Prop :=
  plan.Ends ∧
    (∀ i ∈ Increment.upToTerminal (plan.increments.map (·.2)), i.isError = false) ∧
    Increment.gathered (Increment.upToTerminal (plan.increments.map (·.2))) = reply

/-- The performance gives the reply, as a stream or as a whole. -/
def Performance.Gives (streaming : Bool) (p : Performance) (reply : String) : Prop :=
  if streaming then ∃ plan, p.streamed = .ok plan ∧ plan.Spells reply else p.whole = .reply reply

theorem Performance.Gives.spells {p : Performance} {plan : StreamPlan} {streaming : Bool}
    {reply : String} (h : p.Gives streaming reply) (hs : streaming = true)
    (hplan : p.streamed = .ok plan) : plan.Spells reply := by
  rw [Performance.Gives, if_pos hs] at h
  obtain ⟨plan', hplan', hspells⟩ := h
  obtain rfl := Except.ok.inj (hplan.symm.trans hplan')
  exact hspells

theorem Performance.reply_eq {p : Performance} {reply : String} {due now : Nat}
    {answer : Except Error String} (hp : p.whole = .reply reply)
    (h : p.reply? due now false = some answer) : answer = .ok reply := by
  unfold Performance.reply? at h
  rw [hp] at h
  simp only [Bool.false_and, Bool.false_eq_true, if_false] at h
  split at h
  · cases h
  · exact (Option.some.inj h).symm

namespace Turn

/-- How far a turn has come that is to get a reply, with the performances left after it. -/
def Expects (streaming : Bool) (reply : String) (rest script : List Performance)
    (cancelled : Bool) : Stage → Prop
  | .asked _ => ∃ p, script = p :: rest ∧ p.Gives streaming reply
  | .generating p _ => script = rest ∧ p.Gives streaming reply
  | .replied answer => script = rest ∧ (cancelled = false → answer = .ok reply)
  | .answered result => (∃ e, result = .error e ∧ e.isHistoryWrite = true) ∨
    script = rest ∧ (cancelled = false → result = .ok reply)
  | .streaming .. => script = rest ∧ streaming = true

theorem Expects.cancel {streaming c c' : Bool} {reply : String} {rest script : List Performance}
    {stage : Stage} (h : Expects streaming reply rest script c stage) (hc : c = true → c' = true) :
    Expects streaming reply rest script c' stage := by
  have hcalm (hc' : c' = false) : c = false := by
    cases c with
    | false => rfl
    | true => simp [hc'] at hc
  cases stage with
  | replied => exact ⟨h.1, fun hc' => h.2 (hcalm hc')⟩
  | answered =>
    rcases h with he | ⟨hscript, hr⟩
    · exact .inl he
    · exact .inr ⟨hscript, fun hc' => hr (hcalm hc')⟩
  | _ => exact h

end Turn

namespace Service

open Turn (Expects)

variable {s s' v u : Service} {t t' : Turn} {streaming : Bool} {reply : String}
  {rest : List Performance} {k i : Nat} {p : Turn.Part}

theorem CallMove.expects (hm : CallMove s t t' s')
    (hd : t.delivery = if streaming then .streaming else .blocking)
    (h : Expects streaming reply rest s.generator.script t.cancelled t.stage) :
    Expects streaming reply rest s'.generator.script t'.cancelled t'.stage := by
  cases hm with
  | unheard | unread => exact .inl ⟨_, rfl, rfl⟩
  | @call _ _ _ _ messages p g hs _ _ hg =>
    rw [hs] at h
    obtain ⟨q, hscript, hq⟩ := h
    obtain ⟨hnext, htail⟩ := s.generator.call_eq t.delivery messages
    rw [hg, Generator.next, hscript] at hnext
    rw [hg, hscript] at htail
    obtain rfl : p = q := hnext
    exact ⟨htail, hq⟩
  | @reply p due answer hs hblocking ha =>
    rw [hs] at h
    obtain ⟨hscript, hp⟩ := h
    have hwhole : p.whole = .reply reply := by
      cases streaming with
      | false => simpa [Performance.Gives] using hp
      | true => simp [hblocking] at hd
    refine ⟨hscript, fun hc => ?_⟩
    have hc' : t.cancelled = false := hc
    rw [hc'] at ha
    exact Performance.reply_eq hwhole ha
  | @refuse p due e hs hstreaming ha =>
    rw [hs] at h
    obtain ⟨hscript, hp⟩ := h
    refine .inr ⟨hscript, fun hc => ?_⟩
    obtain ⟨plan, hplan, -⟩ : ∃ plan, p.streamed = .ok plan ∧ plan.Spells reply := by
      cases streaming with
      | true => simpa [Performance.Gives] using hp
      | false => simp [hstreaming] at hd
    have hc' : t.cancelled = false := hc
    rw [hc', Performance.stream?, hplan] at ha
    simp at ha
  | stream hs hstreaming =>
    rw [hs] at h
    refine ⟨h.1, ?_⟩
    cases streaming with
    | true => rfl
    | false => simp [hstreaming] at hd
  | fail hs =>
    rw [hs] at h
    refine .inr ⟨h.1, fun hc => ?_⟩
    cases h.2 hc
  | withdraw hs hc =>
    rw [hs] at h
    exact .inr ⟨h.1, fun hc' => absurd hc (by simpa using hc')⟩
  | record hs =>
    rw [hs] at h
    exact .inr h
  | lose => exact .inl ⟨_, rfl, rfl⟩

theorem Move.expects (hm : Move s t t' s')
    (hd : t.delivery = if streaming then .streaming else .blocking)
    (h : Expects streaming reply rest s.generator.script t.cancelled t.stage) :
    Expects streaming reply rest s'.generator.script t'.cancelled t'.stage := by
  cases hm with
  | call hm => exact hm.expects hd h
  | feed hs | relay hs =>
    rw [hs] at h
    exact h

theorem heard_of_step (hu : v.step i p = some u) (ht : v.turns[i]? = some t) (h : t.Heard) :
    u.generator = v.generator ∧ ∀ (j : Nat) (w : Turn), u.turns[j]? = some w →
      v.turns[j]? = some w ∨ w.Heard := by
  obtain ⟨t₁, t', v', ht₁, hstep, rfl⟩ := step_eq_some_iff.mp hu
  obtain rfl := Option.some.inj (ht.symm.trans ht₁)
  have hm := turnStep_move hstep
  refine ⟨hm.generator_eq h, fun j w hw => ?_⟩
  rcases Session.getElem?_set_cases hw with ⟨rfl, -⟩ | ⟨hw, -⟩
  · exact .inr hm.heard
  · exact .inl hw

end Service

end Parley
