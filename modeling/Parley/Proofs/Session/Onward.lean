import Parley.Proofs.Runs
import Parley.Proofs.Session.Quiet
import Parley.Proofs.Session.Turns
import Parley.Proofs.Turn.Onward

/-! # What no move takes back

Whatever happens in a session, its service only ever goes on, and once the session is cancelled it
stays so.
-/

namespace Parley

namespace Session

structure Onward (s s' : Session) : Prop where
  service : Service.Onward s.service s'.service
  cancelled : s.cancelled = true → s'.cancelled = true

variable {s s' u : Session} {k : Nat} {phase : Phase}

theorem Onward.refl (s : Session) : Onward s s :=
  ⟨.refl s.service, fun h => h⟩

theorem Onward.trans (h : Onward s s') (h' : Onward s' u) : Onward s u :=
  ⟨h.service.trans h'.service, h'.cancelled ∘ h.cancelled⟩

theorem Quiet.onward (h : Quiet s s') : Onward s s' := by
  refine ⟨⟨h.generator_eq ▸ List.suffix_rfl, by rw [h.archive_eq], h.options_eq, ?_⟩, h.cancelled⟩
  intro i t ht
  obtain ⟨f, hf⟩ := h.turns
  refine ⟨{ t with cancelled := t.cancelled || f i }, by rw [hf i, ht, Option.map_some], ?_⟩
  intro hc
  simp [hc]

theorem onward_transcript (s : Session) : Onward s s.transcript.2 :=
  ⟨⟨List.suffix_rfl, Archive.faults_of_get rfl, rfl, .refl s.service.turns⟩, fun h => h⟩

theorem onward_execute (s : Session) (c : Command) : Onward s (s.execute c) := by
  have htranscript {x : Except Error Transcript} {s₁ : Session} (hs : s.transcript = (x, s₁)) :
      Onward s s₁ := by
    have h := onward_transcript s
    rwa [hs] at h
  cases c with
  | history =>
    simp only [execute, showHistory]
    split
    · next hs =>
      obtain ⟨hservice, hc⟩ := htranscript hs
      exact ⟨hservice, hc⟩
    · next hs =>
      obtain ⟨hservice, hc⟩ := htranscript hs
      split
      · exact ⟨hservice, hc⟩
      · exact ⟨hservice, hc⟩
  | save =>
    simp only [execute, save]
    split
    · next hs =>
      obtain ⟨hservice, hc⟩ := htranscript hs
      exact ⟨hservice, hc⟩
    · next hs =>
      obtain ⟨hservice, hc⟩ := htranscript hs
      split
      · exact ⟨hservice, hc⟩
      · exact ⟨hservice, hc⟩
  | stats =>
    simp only [execute, showStats]
    split
    · next hs =>
      obtain ⟨hservice, hc⟩ := htranscript hs
      exact ⟨hservice, hc⟩
    · next hs =>
      obtain ⟨hservice, hc⟩ := htranscript hs
      exact ⟨hservice, hc⟩
  | _ => exact ⟨.refl s.service, fun h => h⟩

theorem onward_beginTurn (s : Session) (text : String) : Onward s (s.beginTurn text) :=
  ⟨⟨List.suffix_rfl, rfl, rfl, .append s.service.turns _⟩, fun h => h⟩

theorem onward_take (s : Session) (reading : Except Error Reading) : Onward s (s.take reading) := by
  rcases reading with e | line
  · exact ⟨.refl s.service, fun h => h⟩
  · cases line with
    | interrupted => exact ⟨.refl s.service, fun h => h⟩
    | line line =>
      simp only [take, dispatch]
      split
      · exact .refl s
      · split
        · exact onward_execute s _
        · exact onward_beginTurn s _

theorem onward_interlude (s : Session) (x : Interlude) : Onward s (s.interlude x) := by
  cases x with
  | deleteSession id =>
    exact ⟨⟨List.suffix_rfl, Archive.faults_delete .., rfl, .refl s.service.turns⟩, fun h => h⟩
  | interrupt =>
    obtain ⟨hservice, hc⟩ := (quiet_interrupt s).onward
    exact ⟨hservice, hc⟩
  | cancel => exact (quiet_cancelAll s).onward

theorem onward_interludes (s : Session) (xs : List Interlude) :
    Onward s (xs.foldl interlude s) := by
  induction xs generalizing s with
  | nil => exact .refl s
  | cons x xs ih => exact (onward_interlude s x).trans (ih _)

theorem onward_readLine (s : Session) : Onward s s.readLine := by
  simp only [readLine]
  split
  · exact ⟨.refl s.service, fun h => h⟩
  · next e rest _ =>
    obtain ⟨hservice, hc⟩ := onward_interludes
      { s with input := rest, events := s.events ++ [Event.prompt s.prompt] } e.interludes
    have h : Onward s (e.interludes.foldl interlude
        { s with input := rest, events := s.events ++ [Event.prompt s.prompt] }) := ⟨hservice, hc⟩
    exact h.trans (onward_take _ _)

theorem TurnMove.onward (h : TurnMove s k phase s') : Onward s s' := by
  cases h with
  | @receive _ _ _ i sink shown failure =>
    obtain ⟨shown', failure', events, he⟩ := receive_eq
      { s with service := s.service.updateSink k fun _ => sink } k shown failure i
    rw [he]
    have hservice := Service.onward_updateSink s.service k fun _ => sink
    exact ⟨hservice, fun h => h⟩
  | _ => exact ⟨.refl s.service, fun h => h⟩

theorem onward_step {m : Move} (h : s.step m = some s') : Onward s s' := by
  cases next_of_step h with
  | leave => exact ⟨.refl s.service, fun h => h⟩
  | read => exact onward_readLine s
  | turn _ hmove => exact hmove.onward
  | part hv => exact ⟨Service.onward_of_step hv, fun h => h⟩
  | quiet hq => exact hq.onward

/-- Some moves lead from one session to the other. -/
def Leads (s s' : Session) : Prop :=
  ∃ ms : List Move, ms.foldlM step s = some s'

theorem Leads.refl (s : Session) : Leads s s :=
  ⟨[], rfl⟩

theorem Leads.step {m : Move} (h : Leads s s') (hm : s'.step m = some u) : Leads s u := by
  obtain ⟨ms, h⟩ := h
  exact ⟨ms ++ [m], by simp [List.foldlM_append, h, hm]⟩

theorem Leads.trans (h : Leads s s') (h' : Leads s' u) : Leads s u := by
  obtain ⟨ms, h⟩ := h
  obtain ⟨ms', h'⟩ := h'
  exact ⟨ms ++ ms', by simp [List.foldlM_append, h, h']⟩

theorem Leads.keeps {P : Session → Prop} (h : Leads s s')
    (hstep : ∀ {u u'} (m : Move), P u → u.step m = some u' → P u') (hs : P s) : P s' := by
  obtain ⟨ms, h⟩ := h
  exact keeps_foldlM hstep h hs

theorem Leads.onward (h : Leads s s') : Onward s s' :=
  h.keeps (P := Onward s) (fun _ hu hm => hu.trans (onward_step hm)) (.refl s)

end Session

end Parley
