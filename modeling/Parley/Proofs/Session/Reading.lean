import Parley.Proofs.Session.Quiet

/-! # What a reading leads to

A reading ends the session, begins a turn, or is dealt with on the spot. What is dealt with on the
spot draws whole lines and calls nobody; the most that it changes is the way in which replies are
delivered. While a line is read, others may interrupt, cancel and delete.
-/

namespace Parley

/-- A turn apart from whether it was cancelled. -/
def Turn.bare (t : Turn) : Turn :=
  { t with cancelled := false }

namespace Drawing

/-- Whether a drawing is a whole line, or clears the screen. -/
def isWhole : Drawing → Bool
  | .primary _ | .secondary _ | .info _ | .success _ | .warning _ | .error _ | .clearScreen => true
  | _ => false

end Drawing

namespace Session

def command? : Except Error Reading → Option Command
  | .ok (.line line) => Command.parse? (Text.trimmed line)
  | _ => none

/-- How a reading ends the session, if it does. -/
def endOf? : Except Error Reading → Option (Except Error Unit)
  | .error e => some (.error (Reading.asInputError e))
  | .ok reading => if command? (.ok reading) = some .exit then some (.ok ()) else none

def streamingAfter (streaming : Bool) (reading : Except Error Reading) : Bool :=
  match command? reading with
  | some (.stream on) => on
  | _ => streaming

/-- The session after a reading that was dealt with on the spot. -/
structure Settles (reading : Except Error Reading) (s s' : Session) : Prop where
  id_eq : s'.id = s.id
  settings_eq : s'.settings = s.settings
  input_eq : s'.input = s.input
  stage_eq : s'.stage = s.stage
  cancelled_eq : s'.cancelled = s.cancelled
  interrupter_eq : s'.interrupter = s.interrupter
  indicator_eq : s'.indicator = s.indicator
  streaming_eq : s'.streaming = streamingAfter s.streaming reading
  generator_eq : s'.service.generator = s.service.generator
  options_eq : s'.service.options = s.service.options
  turns_eq : s'.service.turns = s.service.turns
  find?_eq : ∀ id, s'.service.archive.find? id = s.service.archive.find? id
  drawn : ∃ ds : List Drawing, s'.events = s.events ++ ds.map .drawn ∧ ∀ d ∈ ds, d.isWhole = true

variable {s s' u : Session} {reading : Except Error Reading} {c : Command}

theorem Settles.of_draw {ds : List Drawing} (hds : ∀ d ∈ ds, d.isWhole = true)
    (hc : ∀ on, command? reading ≠ some (.stream on)) : Settles reading s (s.draw ds) := by
  refine ⟨rfl, rfl, rfl, rfl, rfl, rfl, rfl, ?_, rfl, rfl, rfl, fun _ => rfl, ds, rfl, hds⟩
  rw [streamingAfter]
  split
  · next hon => exact absurd hon (hc _)
  · rfl

/-- Looking into the transcript first makes no difference. -/
theorem Settles.of_transcript {t : Except Error Transcript} (ht : s.transcript = (t, u))
    (h : Settles reading u s') : Settles reading s s' := by
  obtain ⟨-, rfl⟩ := Prod.mk.inj ht
  exact ⟨h.id_eq, h.settings_eq, h.input_eq, h.stage_eq, h.cancelled_eq, h.interrupter_eq,
    h.indicator_eq, h.streaming_eq, h.generator_eq, h.options_eq, h.turns_eq,
    fun id => (h.find?_eq id).trans (Archive.find?_get id), h.drawn⟩

theorem settles_report (e : Error) (hc : ∀ on, command? reading ≠ some (.stream on)) :
    Settles reading s (s.report e) :=
  .of_draw (by simp [Drawing.isWhole]) hc

theorem settles_execute (hc : command? reading = some c) (hexit : c ≠ .exit) :
    Settles reading s (s.execute c) := by
  have hother (h : ∀ on, c ≠ .stream on) : ∀ on, command? reading ≠ some (.stream on) := by
    intro on hon
    exact h on (Option.some.inj (hc.symm.trans hon))
  cases c with
  | exit => exact absurd rfl hexit
  | clear | invalid => exact .of_draw (by simp [Drawing.isWhole]) (hother (by simp))
  | help => exact .of_draw (by simp [Drawing.isWhole]) (hother (by simp))
  | stream on =>
    refine ⟨rfl, rfl, rfl, rfl, rfl, rfl, rfl, ?_, rfl, rfl, rfl, fun _ => rfl, _, rfl, ?_⟩
    · simp [streamingAfter, hc, execute, draw]
    · simp [Drawing.isWhole]
  | history =>
    simp only [execute, showHistory]
    split
    · next ht => exact .of_transcript ht (settles_report _ (hother (by simp)))
    · next ht =>
      split
      · exact .of_transcript ht (.of_draw (by simp [Drawing.isWhole]) (hother (by simp)))
      · exact .of_transcript ht (.of_draw (by simp [Drawing.isWhole]) (hother (by simp)))
  | stats =>
    simp only [execute, showStats]
    split
    · next ht => exact .of_transcript ht (settles_report _ (hother (by simp)))
    · next ht => exact .of_transcript ht (.of_draw (by simp [Drawing.isWhole]) (hother (by simp)))
  | save path =>
    simp only [execute, save]
    split
    · next ht => exact .of_transcript ht (settles_report _ (hother (by simp)))
    · next u ht =>
      split
      · exact .of_transcript ht (settles_report _ (hother (by simp)))
      · next folder _ =>
        have hdrawn : Settles reading u (u.draw [.success ("Transcript saved to " ++ path)]) :=
          .of_draw (by simp [Drawing.isWhole]) (hother (by simp))
        exact .of_transcript ht ⟨hdrawn.id_eq, hdrawn.settings_eq, hdrawn.input_eq,
          hdrawn.stage_eq, hdrawn.cancelled_eq, hdrawn.interrupter_eq, hdrawn.indicator_eq,
          hdrawn.streaming_eq, hdrawn.generator_eq, hdrawn.options_eq, hdrawn.turns_eq,
          hdrawn.find?_eq, hdrawn.drawn⟩

inductive Took (s : Session) (reading : Except Error Reading) : Session → Prop where

  | over {result : Except Error Unit} : endOf? reading = some result →
      Took s reading { s with stage := .over result }

  | turn {text : String} : endOf? reading = none → command? reading = none →
      turnLine? reading = some text → Took s reading (s.beginTurn text)

  | settle {s' : Session} : endOf? reading = none → turnLine? reading = none →
      Settles reading s s' → Took s reading s'

theorem command?_of_turnLine {text : String} (h : turnLine? reading = some text) :
    command? reading = none := by
  rcases reading with _ | line | _
  · rfl
  · simp only [turnLine?] at h
    split at h
    · cases h
    · split at h
      · cases h
      · next hc => exact hc
  · rfl

theorem turnLine?_of_end {result : Except Error Unit} (h : endOf? reading = some result) :
    turnLine? reading = none := by
  cases reading with
  | error => rfl
  | ok reading =>
    by_contra hline
    obtain ⟨text, hline⟩ := Option.ne_none_iff_exists'.mp hline
    simp [endOf?, command?_of_turnLine hline] at h

theorem parse?_empty : Command.parse? "" = none := by
  decide +kernel

theorem take_took (s : Session) (reading : Except Error Reading) :
    Took s reading (s.take reading) := by
  rcases reading with e | _ | _
  · exact .over rfl
  · next line =>
    simp only [take, dispatch]
    by_cases ht : Text.trimmed line = ""
    · rw [if_pos ht]
      have hnone : command? (.ok (.line line)) = none := by
        rw [command?, ht]
        exact parse?_empty
      refine .settle (by simp [endOf?, hnone]) (by simp [turnLine?, ht]) ?_
      exact ⟨rfl, rfl, rfl, rfl, rfl, rfl, rfl, by rw [streamingAfter, hnone], rfl, rfl, rfl,
        fun _ => rfl, [], by simp, by simp⟩
    · rw [if_neg ht]
      rcases hc : Command.parse? (Text.trimmed line) with _ | c
      · exact .turn (by simp [endOf?, command?, hc]) hc (by simp [turnLine?, ht, hc])
      · by_cases he : c = .exit
        · subst he
          exact .over (by simp [endOf?, command?, hc])
        · exact .settle (by simp [endOf?, command?, hc, he]) (by simp [turnLine?, ht, hc])
            (settles_execute hc he)
  · exact .settle rfl rfl (.of_draw (by simp [Drawing.isWhole]) (by simp [command?]))

def prompts (s : Session) : List String :=
  s.events.filterMap fun
    | .prompt text => some text
    | _ => none

@[simp] theorem prompts_draw (s : Session) (ds : List Drawing) : (s.draw ds).prompts = s.prompts := by
  simp [prompts, draw, List.filterMap_append]

/-- Tokens were cancelled, sessions deleted, signals taken off the list, or time has passed. -/
structure Beside (s s' : Session) : Prop where
  id_eq : s'.id = s.id
  settings_eq : s'.settings = s.settings
  streaming_eq : s'.streaming = s.streaming
  input_eq : s'.input = s.input
  stage_eq : s'.stage = s.stage
  indicator_eq : s'.indicator = s.indicator
  generator_eq : s'.service.generator = s.service.generator
  options_eq : s'.service.options = s.service.options
  bare_eq : s'.service.turns.map Turn.bare = s.service.turns.map Turn.bare
  drawings_eq : s'.drawings = s.drawings
  prompts_eq : s'.prompts = s.prompts
  unarmed : s.interrupter.armed = none → s'.interrupter.armed = none
  cancelled : s.cancelled = true → s'.cancelled = true

theorem Beside.core_eq (h : Beside s s') :
    s'.service.turns.map Turn.core = s.service.turns.map Turn.core := by
  have hcore : Turn.core = Turn.core ∘ Turn.bare := rfl
  rw [hcore, ← List.map_map, h.bare_eq, List.map_map]

theorem Beside.refl (s : Session) : Beside s s :=
  ⟨rfl, rfl, rfl, rfl, rfl, rfl, rfl, rfl, rfl, rfl, rfl, fun h => h, fun h => h⟩

theorem Beside.trans (h : Beside s s') (h' : Beside s' u) : Beside s u where
  id_eq := h'.id_eq.trans h.id_eq
  settings_eq := h'.settings_eq.trans h.settings_eq
  streaming_eq := h'.streaming_eq.trans h.streaming_eq
  input_eq := h'.input_eq.trans h.input_eq
  stage_eq := h'.stage_eq.trans h.stage_eq
  indicator_eq := h'.indicator_eq.trans h.indicator_eq
  generator_eq := h'.generator_eq.trans h.generator_eq
  options_eq := h'.options_eq.trans h.options_eq
  bare_eq := h'.bare_eq.trans h.bare_eq
  drawings_eq := h'.drawings_eq.trans h.drawings_eq
  prompts_eq := h'.prompts_eq.trans h.prompts_eq
  unarmed := h'.unarmed ∘ h.unarmed
  cancelled := h'.cancelled ∘ h.cancelled

theorem beside_interrupt (s : Session) : Beside s s.interrupt.2 := by
  rw [interrupt]
  split
  · next h =>
    obtain ⟨-, rfl⟩ := Prod.mk.inj h
    refine ⟨rfl, rfl, rfl, rfl, rfl, rfl, rfl, rfl, map_modify_of_eq (fun t => ?_) .., rfl, rfl,
      fun _ => rfl, fun h => h⟩
    rfl
  · next h =>
    obtain ⟨-, rfl⟩ := Prod.mk.inj h
    exact ⟨rfl, rfl, rfl, rfl, rfl, rfl, rfl, rfl, rfl, rfl, rfl, fun _ => rfl, fun h => h⟩

theorem beside_cancelAll (s : Session) : Beside s s.cancelAll := by
  refine ⟨rfl, rfl, rfl, rfl, rfl, rfl, rfl, rfl, ?_, rfl, rfl, fun h => h, fun _ => rfl⟩
  simp [cancelAll, Turn.bare, Function.comp_def]

theorem beside_signal (s : Session) (x : Signal) : Beside s (s.signal x) := by
  cases x with
  | interrupt => exact beside_interrupt s
  | cancel => exact beside_cancelAll s

theorem beside_alarmStep (h : s.alarmStep = some s') : Beside s s' := by
  obtain ⟨_, -, rfl⟩ := eq_of_alarmStep h
  refine Beside.trans ?_ (beside_signal _ _)
  exact ⟨rfl, rfl, rfl, rfl, rfl, rfl, rfl, rfl, rfl, rfl, rfl, fun h => h, fun h => h⟩

theorem beside_interlude (s : Session) (x : Interlude) : Beside s (s.interlude x) := by
  cases x with
  | deleteSession => exact ⟨rfl, rfl, rfl, rfl, rfl, rfl, rfl, rfl, rfl, rfl, rfl, fun h => h, fun h => h⟩
  | interrupt =>
    refine (beside_interrupt s).trans ?_
    exact ⟨rfl, rfl, rfl, rfl, rfl, rfl, rfl, rfl, rfl, by simp [interlude, drawings],
      by simp [interlude, prompts], fun h => h, fun h => h⟩
  | cancel => exact beside_cancelAll s

theorem beside_interludes (s : Session) (xs : List Interlude) :
    Beside s (xs.foldl interlude s) := by
  induction xs generalizing s with
  | nil => exact .refl s
  | cons x xs ih => exact (beside_interlude s x).trans (ih _)

def prompted (s : Session) (rest : List Entry) : Session :=
  { s with input := rest, events := s.events ++ [Event.prompt s.prompt] }

theorem readLine_eq {e : Entry} {rest : List Entry} (h : s.input = e :: rest) :
    s.readLine = (e.interludes.foldl interlude (s.prompted rest)).take e.reading := by
  rw [readLine, h]
  rfl

theorem readLine_took (s : Session) :
    (s.input = [] ∧ s.readLine = { s.prompted [] with
      stage := .over (.error (Reading.asInputError Reading.endOfInput)) }) ∨
    ∃ e rest s₁, s.input = e :: rest ∧ Beside (s.prompted rest) s₁ ∧ Took s₁ e.reading s.readLine := by
  cases hi : s.input with
  | nil =>
    refine .inl ⟨rfl, ?_⟩
    simp [readLine, hi, take, prompted]
  | cons e rest =>
    refine .inr ⟨e, rest, _, rfl, beside_interludes (s.prompted rest) e.interludes, ?_⟩
    rw [readLine_eq hi]
    exact take_took ..

inductive Does (s : Session) : Move → Session → Prop where

  | leave : s.stage = .awaiting → s.cancelled = true → Does s .loop { s with stage := .over (.ok ()) }

  | read : s.stage = .awaiting → s.cancelled = false → Does s .loop s.readLine

  | turn {k : Nat} {phase : Phase} {s' : Session} : s.stage = .inTurn k phase →
      TurnMove s k phase s' → Does s .loop s'

  | part {k : Nat} {p : Turn.Part} {v : Service} : s.service.step k p = some v →
      Does s (.part k p) { s with service := v }

  | indicator {i i' : Indicator} {ds : List Drawing} : s.indicator = some i →
      i.step s.service.now s.turnIsCancelled = some (i', ds) →
      Does s .indicator ({ s with indicator := some i' }.draw ds)

  | beside {m : Move} {s' : Session} : m ≠ .loop → (∀ k p, m ≠ .part k p) → Beside s s' → Does s m s'

theorem does_of_step {m : Move} (h : s.step m = some s') : Does s m s' := by
  cases m with
  | loop =>
    rcases loopStep_cases h with ⟨hs, hc, rfl⟩ | ⟨hs, hc, rfl⟩ | ⟨k, phase, hs, hmove⟩
    · exact .leave hs hc
    · exact .read hs hc
    · exact .turn hs hmove
  | indicator =>
    obtain ⟨_, _, _, hi, hstep, rfl⟩ := eq_of_indicatorStep h
    exact .indicator hi hstep
  | part k p =>
    obtain ⟨v, hv, rfl⟩ := Option.map_eq_some_iff.mp h
    exact .part hv
  | signal x =>
    obtain rfl := Option.some.inj h
    exact .beside (by simp) (by simp) (beside_signal s x)
  | alarm => exact .beside (by simp) (by simp) (beside_alarmStep h)
  | wait moment =>
    obtain rfl := eq_of_wait h
    exact .beside (by simp) (by simp)
      ⟨rfl, rfl, rfl, rfl, rfl, rfl, rfl, rfl, rfl, rfl, rfl, fun h => h, fun h => h⟩

theorem Does.stage_of_inTurn {m : Move} {k : Nat} {phase : Phase} (hd : Does s m s')
    (hs : s.stage = .inTurn k phase) :
    (∃ phase', s'.stage = .inTurn k phase') ∨ s'.stage = .awaiting := by
  cases hd with
  | leave hs' | read hs' => exact absurd (hs.symm.trans hs') (by simp)
  | turn hs' hmove =>
    obtain ⟨rfl, rfl⟩ := Stage.inTurn.inj (hs.symm.trans hs')
    cases hmove with
    | answered | opened | seeEnd => exact .inl ⟨_, rfl⟩
    | @receive _ _ _ i sink shown failure =>
      obtain ⟨shown', failure', events, he⟩ := receive_eq
        { s with service := s.service.updateSink k fun _ => sink } k shown failure i
      rw [he]
      exact .inl ⟨_, rfl⟩
    | conclude => exact .inr rfl
  | part | indicator => exact .inl ⟨phase, hs⟩
  | beside _ _ hbeside => exact .inl ⟨phase, hbeside.stage_eq.trans hs⟩

end Session

end Parley
