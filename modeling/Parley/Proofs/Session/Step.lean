import Parley.Session

/-! # Steps of a session

What a single step of a session can do to the turns and to the transcript of its own: most steps do
nothing to either.
-/

namespace Parley

/-- What of a turn decides what it writes. -/
def Turn.core (t : Turn) : SessionId × Turn.Stage :=
  (t.session, t.stage)

/-- A change of one item is not seen by a map that it leaves alone. -/
theorem map_modify_of_eq {α β : Type} {f : α → β} {g : α → α} (h : ∀ a, f (g a) = f a)
    (as : List α) (k : Nat) : (as.modify k g).map f = as.map f := by
  apply List.ext_getElem?
  intro i
  simp only [List.getElem?_map, List.getElem?_modify]
  cases as[i]? with
  | none => rfl
  | some a => by_cases hi : k = i <;> simp [hi, h]

namespace Session

theorem new_eq_ok_iff {service : Service} {settings : Settings} {input : List Entry}
    {cancelled : Bool} {s : Session} : Session.new service settings input cancelled = .ok s ↔
      ∃ t archive, service.archive.create = (.ok t, archive) ∧
        s = { service := { service with archive }, id := t.id, settings
              streaming := settings.streaming, input, cancelled } := by
  rw [new]
  split
  · next hc => simp [hc]
  · next t archive hc =>
    constructor
    · intro h
      exact ⟨t, archive, hc, (Except.ok.inj h).symm⟩
    · rintro ⟨t', archive', hc', rfl⟩
      cases hc.symm.trans hc'
      rfl

/-- The step has nothing to do with the transcript of a session. -/
structure Aside (id : SessionId) (s s' : Session) : Prop where
  id_eq : s'.id = s.id
  input_eq : s'.input = s.input
  stage_eq : s'.stage = s.stage
  find?_eq : s'.service.archive.find? id = s.service.archive.find? id
  turns_eq : s'.service.turns.map Turn.core = s.service.turns.map Turn.core

variable {id : SessionId} {s s' u : Session}

theorem Aside.refl (id : SessionId) (s : Session) : Aside id s s :=
  ⟨rfl, rfl, rfl, rfl, rfl⟩

theorem Aside.trans (h : Aside id s s') (h' : Aside id s' u) : Aside id s u :=
  ⟨h'.id_eq.trans h.id_eq, h'.input_eq.trans h.input_eq, h'.stage_eq.trans h.stage_eq,
    h'.find?_eq.trans h.find?_eq, h'.turns_eq.trans h.turns_eq⟩

theorem Aside.draw (h : Aside id s s') (ds : List Drawing) : Aside id s (s'.draw ds) :=
  ⟨h.id_eq, h.input_eq, h.stage_eq, h.find?_eq, h.turns_eq⟩

theorem aside_cancelAll (id : SessionId) (s : Session) : Aside id s s.cancelAll :=
  ⟨rfl, rfl, rfl, rfl, by simp [cancelAll, Turn.core, Function.comp_def]⟩

theorem aside_interrupt (id : SessionId) (s : Session) : Aside id s s.interrupt.2 := by
  rw [interrupt]
  split
  · refine ⟨rfl, rfl, rfl, rfl, map_modify_of_eq (fun t => ?_) ..⟩
    rfl
  · exact ⟨rfl, rfl, rfl, rfl, rfl⟩

theorem aside_signal (id : SessionId) (s : Session) (x : Signal) : Aside id s (s.signal x) := by
  cases x with
  | interrupt => exact aside_interrupt id s
  | cancel => exact aside_cancelAll id s

theorem aside_transcript (id : SessionId) (s : Session) : Aside id s s.transcript.2 :=
  ⟨rfl, rfl, rfl, Archive.find?_get id, rfl⟩

theorem aside_showHistory (id : SessionId) (s : Session) : Aside id s s.showHistory := by
  have h := aside_transcript id s
  rw [showHistory]
  split
  · next hs => exact (hs ▸ h).draw _
  · next hs =>
    rw [hs] at h
    split
    · exact h.draw _
    · exact h.draw _

theorem aside_showStats (id : SessionId) (s : Session) : Aside id s s.showStats := by
  have h := aside_transcript id s
  rw [showStats]
  split
  · next hs => exact (hs ▸ h).draw _
  · next hs => exact (hs ▸ h).draw _

theorem aside_save (id : SessionId) (s : Session) (path : String) : Aside id s (s.save path) := by
  have h := aside_transcript id s
  rw [save]
  split
  · next hs => exact (hs ▸ h).draw _
  · next hs =>
    rw [hs] at h
    split
    · exact h.draw _
    · exact ⟨h.id_eq, h.input_eq, h.stage_eq, h.find?_eq, h.turns_eq⟩

theorem aside_execute (id : SessionId) (s : Session) {c : Command} (hc : c ≠ .exit) :
    Aside id s (s.execute c) := by
  cases c with
  | exit => exact absurd rfl hc
  | history => exact aside_showHistory id s
  | save path => exact aside_save id s path
  | stats => exact aside_showStats id s
  | clear | help | invalid => exact (Aside.refl id s).draw _
  | stream => exact ⟨rfl, rfl, rfl, rfl, rfl⟩

theorem aside_interlude {x : Interlude} (hx : x ≠ .deleteSession id) (s : Session) :
    Aside id s (s.interlude x) := by
  cases x with
  | deleteSession j =>
    have hj : id ≠ j := fun h => hx (by rw [h])
    exact ⟨rfl, rfl, rfl, Archive.find?_delete hj, rfl⟩
  | interrupt =>
    have h := aside_interrupt id s
    exact ⟨h.id_eq, h.input_eq, h.stage_eq, h.find?_eq, h.turns_eq⟩
  | cancel => exact aside_cancelAll id s

theorem aside_interludes {xs : List Interlude} (hx : .deleteSession id ∉ xs) (s : Session) :
    Aside id s (xs.foldl interlude s) := by
  induction xs generalizing s with
  | nil => exact .refl id s
  | cons x xs ih =>
    rw [List.mem_cons, not_or] at hx
    exact (aside_interlude (Ne.symm hx.1) s).trans (ih hx.2 _)

/-- What of a reading becomes a turn: a line that is neither blank nor a command. -/
def turnLine? : Except Error Reading → Option String
  | .ok (.line line) =>
    let text := Text.trimmed line
    if text = "" then none
    else
      match Command.parse? text with
      | some _ => none
      | none => some text
  | _ => none

def turnLines (entries : List Entry) : List String :=
  entries.filterMap fun e => turnLine? e.reading

theorem turnLines_concat (read : List Entry) (e : Entry) :
    turnLines (read ++ [e]) = turnLines read ++ (turnLine? e.reading).toList := by
  rw [turnLines, List.filterMap_append, ← turnLines]
  cases h : turnLine? e.reading <;> simp [h]

/-- A reading ends the session, begins a turn, or does neither. -/
theorem take_cases (id : SessionId) (s : Session) (reading : Except Error Reading) :
    (turnLine? reading = none ∧
      ((∃ result, s.take reading = { s with stage := .over result }) ∨
        Aside id s (s.take reading))) ∨
      ∃ text, turnLine? reading = some text ∧ s.take reading = s.beginTurn text := by
  rcases reading with e | line
  · exact .inl ⟨rfl, .inl ⟨_, rfl⟩⟩
  · cases line with
    | interrupted => exact .inl ⟨rfl, .inr ((Aside.refl id s).draw _)⟩
    | line line =>
      simp only [turnLine?, take, dispatch]
      by_cases ht : Text.trimmed line = ""
      · rw [if_pos ht, if_pos ht]
        exact .inl ⟨rfl, .inr (.refl id s)⟩
      · rw [if_neg ht, if_neg ht]
        rcases Command.parse? (Text.trimmed line) with _ | c
        · exact .inr ⟨_, rfl, rfl⟩
        · by_cases he : c = .exit
          · rw [he]
            exact .inl ⟨rfl, .inl ⟨.ok (), rfl⟩⟩
          · exact .inl ⟨rfl, .inr (aside_execute id s he)⟩

theorem take_of_turnLine (s : Session) {reading : Except Error Reading} {text : String}
    (h : turnLine? reading = some text) : s.take reading = s.beginTurn text := by
  rcases take_cases s.id s reading with ⟨hn, -⟩ | ⟨text', hn, ht⟩
  · simp [h] at hn
  · obtain rfl := Option.some.inj (hn.symm.trans h)
    exact ht

theorem eq_of_indicatorStep (h : s.indicatorStep = some s') :
    ∃ i i' ds, s.indicator = some i ∧ i.step s.service.now s.turnIsCancelled = some (i', ds) ∧
      s' = { s with indicator := some i' }.draw ds := by
  rw [indicatorStep] at h
  split at h
  · cases h
  · next i hi =>
    split at h
    · cases h
    · next i' ds hstep => exact ⟨i, i', ds, hi, hstep, (Option.some.inj h).symm⟩

theorem eq_of_alarmStep (h : s.alarmStep = some s') :
    ∃ a, s.service.alarms.find? (·.1 ≤ s.service.now) = some a ∧
      s' = { s with service := { s.service with alarms := s.service.alarms.erase a } }.signal a.2 := by
  rw [alarmStep] at h
  split at h
  · cases h
  · next a ha => exact ⟨a, ha, (Option.some.inj h).symm⟩

theorem eq_of_wait {moment : Nat} (h : s.step (.wait moment) = some s') :
    s' = { s with service := { s.service with now := moment } } := by
  simp only [step] at h
  split at h
  · exact (Option.some.inj h).symm
  · cases h

theorem aside_indicatorStep (h : s.indicatorStep = some s') : Aside id s s' := by
  obtain ⟨_, _, _, -, -, rfl⟩ := eq_of_indicatorStep h
  exact ⟨rfl, rfl, rfl, rfl, rfl⟩

theorem aside_alarmStep (h : s.alarmStep = some s') : Aside id s s' := by
  obtain ⟨_, -, rfl⟩ := eq_of_alarmStep h
  refine Aside.trans ?_ (aside_signal id _ _)
  exact ⟨rfl, rfl, rfl, rfl, rfl⟩

variable {k : Nat} {phase : Phase}

theorem relay?_eq_some_iff {v : Service} {relay : Relay} :
    v.relay? k = some relay ↔
      ∃ t feed, v.turns[k]? = some t ∧ t.stage = .streaming feed relay := by
  rw [Service.relay?]
  cases v.turns[k]? with
  | none => simp
  | some t =>
    obtain ⟨session, delivery, cancelled, stage⟩ := t
    cases stage <;> simp

theorem receive_eq (s : Session) (k : Nat) (shown : Bool) (failure : Option Error) (i : Increment) :
    ∃ shown' failure' events, s.receive k shown failure i =
      { s with stage := .inTurn k (.receiving shown' failure'), events } := by
  rw [Session.receive]
  split
  · exact ⟨_, _, _, rfl⟩
  · split
    · exact ⟨_, _, _, rfl⟩
    · exact ⟨_, _, _, rfl⟩

inductive TurnMove (s : Session) (k : Nat) : Phase → Session → Prop where

  | answered {t : Turn} {result : Except Error String} : s.service.turns[k]? = some t →
      t.stage = .answered result → TurnMove s k .calling (s.close k (.called result))

  | opened {t : Turn} {feed : Feed} {relay : Relay} : s.service.turns[k]? = some t →
      t.stage = .streaming feed relay →
      TurnMove s k .calling { s with stage := .inTurn k (.receiving false none) }

  | receive {t : Turn} {feed : Feed} {relay : Relay} {i : Increment} {sink : Channel Increment}
      {shown : Bool} {failure : Option Error} : s.service.turns[k]? = some t →
      t.stage = .streaming feed relay → relay.sink.receive = .item i sink →
      TurnMove s k (.receiving shown failure)
        ({ s with service := s.service.updateSink k fun _ => sink }.receive k shown failure i)

  | seeEnd {t : Turn} {feed : Feed} {relay : Relay} {shown : Bool} {failure : Option Error} :
      s.service.turns[k]? = some t → t.stage = .streaming feed relay →
      relay.sink.receive = .closed →
      TurnMove s k (.receiving shown failure) (s.close k (.streamed shown failure))

  | conclude {ending : Ending} : (∀ i ∈ s.indicator, i.hasEnded = true) →
      TurnMove s k (.closing ending) (s.conclude k ending)

theorem turnStep_eq_some_iff : s.turnStep k phase = some s' ↔ TurnMove s k phase s' := by
  constructor
  · intro h
    cases phase with
    | calling =>
      simp only [turnStep] at h
      split at h
      · next hs =>
        obtain ⟨t, ht, hs⟩ := Option.map_eq_some_iff.mp hs
        obtain rfl := Option.some.inj h
        exact .answered ht hs
      · next hs =>
        obtain ⟨t, ht, hs⟩ := Option.map_eq_some_iff.mp hs
        obtain rfl := Option.some.inj h
        exact .opened ht hs
      · cases h
    | receiving shown failure =>
      simp only [turnStep] at h
      split at h
      · cases h
      · next hrelay =>
        obtain ⟨t, feed, ht, hs⟩ := relay?_eq_some_iff.mp hrelay
        split at h
        · next hr =>
          obtain rfl := Option.some.inj h
          exact .receive ht hs hr
        · cases h
        · next hr =>
          obtain rfl := Option.some.inj h
          exact .seeEnd ht hs hr
    | closing ending =>
      simp only [turnStep] at h
      split at h
      · next i hi =>
        split at h
        · next hended =>
          obtain rfl := Option.some.inj h
          exact .conclude (by simp [hi, hended])
        · cases h
      · next hi =>
        obtain rfl := Option.some.inj h
        exact .conclude (by simp [hi])
  · intro h
    cases h with
    | answered ht hs | opened ht hs => simp [turnStep, ht, hs]
    | receive ht hs hr | seeEnd ht hs hr =>
      simp [turnStep, relay?_eq_some_iff.mpr ⟨_, _, ht, hs⟩, hr]
    | conclude hended =>
      cases hi : s.indicator with
      | none => simp [turnStep, hi]
      | some i => simp [turnStep, hi, hended i hi]

theorem loopStep_cases (h : s.loopStep = some s') :
    (s.stage = .awaiting ∧ s.cancelled = true ∧ s' = { s with stage := .over (.ok ()) }) ∨
      (s.stage = .awaiting ∧ s.cancelled = false ∧ s' = s.readLine) ∨
      ∃ k phase, s.stage = .inTurn k phase ∧ TurnMove s k phase s' := by
  rw [loopStep] at h
  split at h
  · cases h
  · next hs =>
    split at h
    · next hc => exact .inl ⟨hs, hc, (Option.some.inj h).symm⟩
    · next hc => exact .inr (.inl ⟨hs, by simpa using hc, (Option.some.inj h).symm⟩)
  · next k phase hs => exact .inr (.inr ⟨k, phase, hs, turnStep_eq_some_iff.mp h⟩)

end Session

end Parley
