import Parley.Proofs.Display.Indicator
import Parley.Proofs.Display.Plain
import Parley.Proofs.Session.Step

/-! # Quiet moves

The indicator, a signal and the passing of time leave a session where it is. They write nothing to
the archive and show nothing that lasts; all they do to turns is to cancel them. All other moves are
steps of the session itself or of a part of a turn.
-/

namespace Parley

/-- An indicator without an interval fails at its start; any other draws a frame, or erases the last
one and ends. -/
theorem Indicator.step_cases {i i' : Indicator} {now : Nat} {cancelled : Bool}
    {drawn : List Drawing} (h : i.step now cancelled = some (i', drawn)) :
    (i.stage = .fresh ∧ i.interval = 0 ∧ i' = { i with stage := .ended } ∧ drawn = []) ∨
      (i' = { i with stage := .ended } ∧ drawn = [.clearThinking]) ∨
      ∃ mark due, i'.stage = .ticking due ∧ i'.interval = i.interval ∧ drawn = [.frame mark] := by
  cases Indicator.move_of_step h with
  | fail hs hi => exact .inl ⟨hs, hi, rfl, rfl⟩
  | finish => exact .inr (.inl ⟨rfl, rfl⟩)
  | draw => exact .inr (.inr ⟨_, _, rfl, rfl, rfl⟩)

namespace Session

/-- What a session has shown, apart from the indicator. -/
def lasting (s : Session) : List Drawing :=
  Drawing.lasting s.drawings

variable {s s' u : Session}

@[simp] theorem drawings_draw (s : Session) (ds : List Drawing) :
    (s.draw ds).drawings = s.drawings ++ ds := by
  unfold drawings draw
  rw [List.filterMap_append, List.filterMap_map]
  congr 1
  exact List.filterMap_some

@[simp] theorem lasting_draw (s : Session) (ds : List Drawing) :
    (s.draw ds).lasting = s.lasting ++ Drawing.lasting ds := by
  rw [lasting, drawings_draw, Drawing.lasting_append]
  rfl

structure Quiet (s s' : Session) : Prop where
  id_eq : s'.id = s.id
  settings_eq : s'.settings = s.settings
  streaming_eq : s'.streaming = s.streaming
  input_eq : s'.input = s.input
  stage_eq : s'.stage = s.stage
  archive_eq : s'.service.archive = s.service.archive
  options_eq : s'.service.options = s.service.options
  generator_eq : s'.service.generator = s.service.generator
  turns : ∃ f : Nat → Bool, ∀ i : Nat, s'.service.turns[i]? =
    (s.service.turns[i]?).map fun t => { t with cancelled := t.cancelled || f i }
  lasting_eq : s'.lasting = s.lasting
  cancelled : s.cancelled = true → s'.cancelled = true

theorem map_cancelled_false (turns : List Turn) (i : Nat) :
    turns[i]? = (turns[i]?).map fun t => { t with cancelled := t.cancelled || false } := by
  simp

theorem quiet_cancelAll (s : Session) : Quiet s s.cancelAll := by
  refine ⟨rfl, rfl, rfl, rfl, rfl, rfl, rfl, rfl, ⟨fun _ => true, fun i => ?_⟩, rfl,
    fun _ => rfl⟩
  simp [cancelAll]

theorem quiet_interrupt (s : Session) : Quiet s s.interrupt.2 := by
  unfold interrupt
  split
  · next k _ _ =>
    refine ⟨rfl, rfl, rfl, rfl, rfl, rfl, rfl, rfl, ⟨fun i => i = k, fun i => ?_⟩, rfl,
      fun h => h⟩
    simp only [Service.cancel, Service.update, List.getElem?_modify]
    cases s.service.turns[i]? with
    | none => rfl
    | some t =>
      by_cases hi : i = k
      · simp [hi]
      · simp [hi, Ne.symm hi]
  · exact ⟨rfl, rfl, rfl, rfl, rfl, rfl, rfl, rfl, ⟨fun _ => false, map_cancelled_false _⟩, rfl,
      fun h => h⟩

theorem quiet_signal (s : Session) (x : Signal) : Quiet s (s.signal x) := by
  cases x with
  | interrupt => exact quiet_interrupt s
  | cancel => exact quiet_cancelAll s

theorem quiet_alarmStep (h : s.alarmStep = some s') : Quiet s s' := by
  obtain ⟨a, -, rfl⟩ := eq_of_alarmStep h
  obtain ⟨hid, hsettings, hstreaming, hinput, hstage, harchive, hoptions, hgenerator, hturns,
      hlasting, hc⟩ :=
    quiet_signal { s with service := { s.service with alarms := s.service.alarms.erase a } } a.2
  exact ⟨hid, hsettings, hstreaming, hinput, hstage, harchive, hoptions, hgenerator, hturns,
    hlasting, hc⟩

theorem lasting_indicator {i i' : Indicator} {now : Nat} {c : Bool} {drawn : List Drawing}
    (h : i.step now c = some (i', drawn)) : Drawing.lasting drawn = [] := by
  rcases Indicator.step_cases h with ⟨-, -, -, rfl⟩ | ⟨-, rfl⟩ | ⟨mark, due, -, -, rfl⟩
  · rfl
  · rfl
  · rfl

theorem quiet_indicatorStep (h : s.indicatorStep = some s') : Quiet s s' := by
  obtain ⟨_, _, _, -, hi, rfl⟩ := eq_of_indicatorStep h
  refine ⟨rfl, rfl, rfl, rfl, rfl, rfl, rfl, rfl, ⟨fun _ => false, map_cancelled_false _⟩, ?_,
    fun h => h⟩
  rw [lasting_draw, lasting_indicator hi, List.append_nil]
  rfl

theorem quiet_step {m : Move} (hloop : m ≠ .loop) (hpart : ∀ k p, m ≠ .part k p)
    (h : s.step m = some s') : Quiet s s' := by
  cases m with
  | loop => exact absurd rfl hloop
  | part k p => exact absurd rfl (hpart k p)
  | indicator => exact quiet_indicatorStep h
  | signal x =>
    obtain rfl := Option.some.inj h
    exact quiet_signal s x
  | alarm => exact quiet_alarmStep h
  | wait moment =>
    obtain rfl := eq_of_wait h
    exact ⟨rfl, rfl, rfl, rfl, rfl, rfl, rfl, rfl, ⟨fun _ => false, map_cancelled_false _⟩, rfl,
      fun h => h⟩

inductive Next (s : Session) : Session → Prop where

  | leave : s.stage = .awaiting → s.cancelled = true → Next s { s with stage := .over (.ok ()) }

  | read : s.stage = .awaiting → s.cancelled = false → Next s s.readLine

  | turn {k : Nat} {phase : Phase} {s' : Session} : s.stage = .inTurn k phase →
      TurnMove s k phase s' → Next s s'

  | part {k : Nat} {p : Turn.Part} {v : Service} : s.service.step k p = some v →
      Next s { s with service := v }

  | quiet {s' : Session} : Quiet s s' → Next s s'

theorem next_of_step {m : Move} (h : s.step m = some s') : Next s s' := by
  by_cases hloop : m = .loop
  · subst hloop
    rcases loopStep_cases h with ⟨hs, hc, rfl⟩ | ⟨hs, hc, rfl⟩ | ⟨k, phase, hs, hmove⟩
    · exact .leave hs hc
    · exact .read hs hc
    · exact .turn hs hmove
  · by_cases hpart : ∃ k p, m = .part k p
    · obtain ⟨k, p, rfl⟩ := hpart
      obtain ⟨v, hv, rfl⟩ := Option.map_eq_some_iff.mp h
      exact .part hv
    · simp only [not_exists] at hpart
      exact .quiet (quiet_step hloop hpart h)

theorem Quiet.core_eq (h : Quiet s s') :
    s'.service.turns.map Turn.core = s.service.turns.map Turn.core := by
  obtain ⟨f, hf⟩ := h.turns
  ext1 i
  rw [List.getElem?_map, List.getElem?_map, hf i, Option.map_map]
  rfl

end Session

end Parley
