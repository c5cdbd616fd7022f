import Parley.Proofs.Turn.Step

/-! # What no turn takes back

The generator never gets back a performance that it has given, turns are never forgotten and stay
cancelled once they are, and the medium and the options of a service stay what they are.
-/

namespace Parley

/-- The call has taken up what the user said. -/
def Turn.Heard (t : Turn) : Prop :=
  ∀ text, t.stage ≠ .asked text

namespace Generator

def next (g : Generator) : Performance :=
  g.script.headD encore

theorem call_eq (g : Generator) (delivery : Delivery) (messages : List Message) :
    (g.call delivery messages).1 = g.next ∧ (g.call delivery messages).2.script = g.script.tail := by
  unfold call next
  cases g.script with
  | nil => exact ⟨rfl, rfl⟩
  | cons p script => exact ⟨rfl, rfl⟩

end Generator

namespace Service

/-- Every turn is still there, and it is still cancelled if it was. -/
def KeepsTurns (turns turns' : List Turn) : Prop :=
  ∀ (k : Nat) (t : Turn), turns[k]? = some t →
    ∃ t', turns'[k]? = some t' ∧ (t.cancelled = true → t'.cancelled = true)

structure Onward (s s' : Service) : Prop where
  script : s'.generator.script <:+ s.generator.script
  faults : s'.archive.faults = s.archive.faults
  options : s'.options = s.options
  turns : KeepsTurns s.turns s'.turns

variable {s s' u : Service} {t t' : Turn} {k : Nat} {p : Turn.Part}

theorem KeepsTurns.refl (turns : List Turn) : KeepsTurns turns turns :=
  fun _ t ht => ⟨t, ht, id⟩

theorem KeepsTurns.append (turns more : List Turn) : KeepsTurns turns (turns ++ more) := by
  intro k t ht
  obtain ⟨hk, -⟩ := List.getElem?_eq_some_iff.mp ht
  exact ⟨t, by rwa [List.getElem?_append_left hk], id⟩

theorem KeepsTurns.modify (turns : List Turn) (k : Nat) {f : Turn → Turn}
    (hf : ∀ t, t.cancelled = true → (f t).cancelled = true) :
    KeepsTurns turns (turns.modify k f) := by
  intro i t ht
  by_cases hi : k = i
  · exact ⟨f t, by simp [hi, ht], hf t⟩
  · exact ⟨t, by simp [hi, ht], id⟩

theorem Onward.refl (s : Service) : Onward s s :=
  ⟨List.suffix_rfl, rfl, rfl, .refl s.turns⟩

theorem Onward.trans (h : Onward s s') (h' : Onward s' u) : Onward s u := by
  refine ⟨h'.script.trans h.script, h'.faults.trans h.faults, h'.options.trans h.options, ?_⟩
  intro k t ht
  obtain ⟨t', ht', hc⟩ := h.turns k t ht
  obtain ⟨t'', ht'', hc'⟩ := h'.turns k t' ht'
  exact ⟨t'', ht'', hc' ∘ hc⟩

theorem Onward.length_le (h : Onward s s') : s.turns.length ≤ s'.turns.length := by
  rcases Nat.eq_zero_or_pos s.turns.length with h0 | hpos
  · omega
  · obtain ⟨t', ht', -⟩ := h.turns (s.turns.length - 1) _ (List.getElem?_eq_getElem (by omega))
    obtain ⟨hk, -⟩ := List.getElem?_eq_some_iff.mp ht'
    omega

theorem Shows.faults_eq {id : SessionId} {m : Message} {a b : Archive} {messages : List Message}
    (h : s.Shows id m a messages b) : b.faults = a.faults := by
  rw [Shows] at h
  split at h
  · rw [h.2]
  · obtain ⟨tr, hg, -⟩ := h
    exact Archive.faults_of_get hg

theorem CallMove.onward (hm : CallMove s t t' s') : Onward s s' := by
  cases hm with
  | unheard _ ha | record _ _ ha | lose _ _ ha =>
    exact ⟨List.suffix_rfl, Archive.faults_of_append ha, rfl, .refl s.turns⟩
  | unread _ ha _ hb =>
    have hfaults := (Archive.faults_of_get hb).trans (Archive.faults_of_append ha)
    exact ⟨List.suffix_rfl, hfaults, rfl, .refl s.turns⟩
  | @call _ _ _ _ _ _ g _ ha hb hg =>
    have hfaults := hb.faults_eq.trans (Archive.faults_of_append ha)
    refine ⟨?_, hfaults, rfl, .refl s.turns⟩
    have hscript : g.script = s.generator.script.tail := by
      rw [← (s.generator.call_eq t.delivery _).2, hg]
    rw [hscript]
    exact List.tail_suffix _
  | _ => exact .refl s

theorem Move.onward (hm : Move s t t' s') : Onward s s' := by
  cases hm with
  | call hm => exact hm.onward
  | feed => exact .refl s
  | relay _ hm =>
    refine ⟨List.suffix_rfl, ?_, rfl, .refl s.turns⟩
    rcases hm.archive_cases with ⟨rfl, -⟩ | ⟨-, -, text, rfl⟩
    · rfl
    · exact Archive.faults_of_append rfl

theorem Move.heard (hm : Move s t t' s') : t'.Heard := by
  intro text hs
  cases hm with
  | call hm => cases hm <;> cases hs
  | feed | relay => cases hs

theorem Move.generator_eq (hm : Move s t t' s') (h : t.Heard) : s'.generator = s.generator := by
  cases hm with
  | call hm =>
    cases hm with
    | call hs => exact absurd hs (h _)
    | _ => rfl
  | feed | relay => rfl

theorem Move.cancelled_eq (hm : Move s t t' s') : t'.cancelled = t.cancelled := by
  cases hm with
  | call hm => cases hm <;> rfl
  | feed | relay => rfl

theorem Move.onward_set (hm : Move s t t' s') (ht : s.turns[k]? = some t) :
    Onward s { s' with turns := s.turns.set k t' } := by
  obtain ⟨hk, -⟩ := List.getElem?_eq_some_iff.mp ht
  obtain ⟨hscript, hfaults, hoptions, -⟩ := hm.onward
  refine ⟨hscript, hfaults, hoptions, fun i w hw => ?_⟩
  by_cases hi : k = i
  · subst hi
    obtain rfl := Option.some.inj (ht.symm.trans hw)
    exact ⟨t', List.getElem?_set_self hk, fun hc => hm.cancelled_eq.trans hc⟩
  · exact ⟨w, by rwa [List.getElem?_set_ne hi], id⟩

theorem onward_of_step (hu : s.step k p = some u) : Onward s u := by
  obtain ⟨t, t', v, ht, hstep, rfl⟩ := step_eq_some_iff.mp hu
  exact (turnStep_move hstep).onward_set ht

theorem onward_updateSink (s : Service) (k : Nat) (f : Channel Increment → Channel Increment) :
    Onward s (s.updateSink k f) := by
  refine ⟨List.suffix_rfl, rfl, rfl, .modify s.turns k fun t hc => ?_⟩
  split
  · exact hc
  · exact hc

theorem onward_cancel (s : Service) (k : Nat) : Onward s (s.cancel k) :=
  ⟨List.suffix_rfl, rfl, rfl, .modify s.turns k fun _ _ => rfl⟩

end Service

end Parley
