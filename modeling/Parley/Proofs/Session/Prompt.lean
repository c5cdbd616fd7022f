import Parley.Proofs.Display.Plain
import Parley.Proofs.Session.Onward
import Parley.Proofs.Session.Own

/-! # Quiet at the prompt

A turn arms the interrupter, starts an indicator, opens a reply on the display and lets a relay
write. When the session is back at its prompt all of that is over, however the turn came out and
whatever the indicator, the relay and the signals did in between.
-/

namespace Parley

namespace Display

variable {d : Display} {x : Drawing} {ds : List Drawing} {colored : Bool} {i i' : Indicator}
  {now : Nat} {cancelled : Bool}

theorem draw_of_isWhole (hx : x.isWhole = true) : (d.draw x).1 = { colored := d.colored } := by
  cases x <;> first | rfl | cases hx

theorem after_of_isWhole (hds : ∀ x ∈ ds, x.isWhole = true) :
    Display.after { colored } ds = { colored } := by
  induction ds with
  | nil => rfl
  | cons x ds ih =>
    rw [after, draw_of_isWhole (hds x List.mem_cons_self)]
    exact ih fun y hy => hds y (List.mem_cons_of_mem x hy)

/-- An indicator leaves a frame only for as long as it goes on. -/
theorem after_indicator (h : i.step now cancelled = some (i', ds))
    (hframe : d.frameShowing = true → ∃ due, i.stage = .ticking due) :
    ∃ frame, d.after ds = { d with frameShowing := frame } ∧
      (frame = true → ∃ due, i'.stage = .ticking due) := by
  rcases Indicator.step_cases h with ⟨hs, -, rfl, rfl⟩ | ⟨rfl, rfl⟩ | ⟨mark, due, hs, -, rfl⟩
  · -- it fails before its first frame
    refine ⟨d.frameShowing, rfl, fun hshowing => ?_⟩
    obtain ⟨due, hticking⟩ := hframe hshowing
    exact absurd (hs.symm.trans hticking) (by simp)
  · exact ⟨false, rfl, by simp⟩
  · simp only [after, draw]
    split
    · exact ⟨d.frameShowing, rfl, fun _ => ⟨due, hs⟩⟩
    · exact ⟨true, rfl, fun _ => ⟨due, hs⟩⟩

end Display

namespace Session

def Phase.isOpen : Phase → Bool
  | .receiving shown _ | .closing (.streamed shown _) => shown
  | _ => false

/-- Nothing of a turn is left with the session or on its display. -/
structure Cleared (s : Session) : Prop where
  unarmed : s.interrupter.armed = none
  unattended : s.indicator = none
  clean : ∀ colored, Display.after { colored } s.drawings = { colored }

/-- On the display stand the reply that the phase knows of, and a frame if the indicator goes on. -/
def Displays (s : Session) (phase : Phase) : Prop :=
  ∀ colored, ∃ frameShowing,
    Display.after { colored } s.drawings = { colored, inReply := phase.isOpen, frameShowing } ∧
      (frameShowing = true → ∃ i due, s.indicator = some i ∧ i.stage = .ticking due)

/-- What a session still has to tidy up at every stage. -/
def Tidy (s : Session) : Stage → Prop
  | .awaiting | .over _ => s.Cleared
  | .inTurn _ phase => s.Displays phase

variable {s s' u : Session} {k : Nat} {phase : Phase} {ending : Ending} {colored : Bool}
  {ds : List Drawing} {m : Move}

theorem drawings_of_events (h : s'.events = s.events ++ ds.map .drawn) :
    s'.drawings = s.drawings ++ ds := by
  rw [← drawings_draw, drawings, h]
  rfl

theorem after_draw {d : Display} (h : Display.after { colored } s.drawings = d)
    (ds : List Drawing) : Display.after { colored } (s.draw ds).drawings = d.after ds := by
  rw [drawings_draw, Display.after_append, h]

theorem drawings_prompted (s : Session) (rest : List Entry) :
    (s.prompted rest).drawings = s.drawings := by
  simp [drawings, prompted]

theorem Cleared.beside (h : s.Cleared) (hb : Beside s s') : s'.Cleared where
  unarmed := hb.unarmed h.unarmed
  unattended := hb.indicator_eq.trans h.unattended
  clean := hb.drawings_eq ▸ h.clean

theorem Cleared.prompted (h : s.Cleared) (rest : List Entry) : (s.prompted rest).Cleared :=
  ⟨h.unarmed, h.unattended, drawings_prompted s rest ▸ h.clean⟩

theorem Cleared.took {reading : Except Error Reading} (h : s.Cleared) (hs : s.stage = .awaiting)
    (ht : Took s reading s') : s'.Tidy s'.stage := by
  cases ht with
  | «over» => exact ⟨h.unarmed, h.unattended, h.clean⟩
  | turn => exact fun colored => ⟨false, h.clean colored, by simp⟩
  | settle _ _ hsettles =>
    rw [hsettles.stage_eq, hs]
    obtain ⟨ds, hevents, hwhole⟩ := hsettles.drawn
    refine ⟨hsettles.interrupter_eq ▸ h.unarmed, hsettles.indicator_eq.trans h.unattended, ?_⟩
    intro colored
    rw [drawings_of_events hevents, Display.after_append, h.clean colored]
    exact Display.after_of_isWhole hwhole

theorem after_failureDrawings (s : Session) (e : Error) :
    Display.after { colored } (s.failureDrawings e) = { colored } := by
  rw [failureDrawings]
  split
  · rfl
  · split
    · rfl
    · rfl

theorem after_concluding (s : Session) (k : Nat) (ending : Ending) :
    Display.after { colored, inReply := (Phase.closing ending).isOpen } (s.endingDrawings ending ++
      match s.outcome k ending with
      | .ok () => []
      | .error e => s.failureDrawings e) = { colored } := by
  rw [Display.after_append]
  have hfinished : Display.after { colored, inReply := (Phase.closing ending).isOpen }
      (s.endingDrawings ending) = { colored } := by
    rcases ending with (_ | _) | ⟨_ | _, _⟩ <;> rfl
  rw [hfinished]
  split
  · rfl
  · exact after_failureDrawings s _

theorem Displays.conclude (h : s.Displays (.closing ending))
    (hended : ∀ i ∈ s.indicator, i.hasEnded = true) : (s.conclude k ending).Cleared := by
  refine ⟨rfl, rfl, fun colored => ?_⟩
  obtain ⟨frame, hafter, hframe⟩ := h colored
  have hgone : frame = false := by
    by_contra hshowing
    obtain ⟨i, due, hi, hticking⟩ := hframe (by simpa using hshowing)
    have hi' := hended i hi
    simp [Indicator.hasEnded, hticking] at hi'
  subst hgone
  rw [Session.conclude]
  exact (after_draw hafter _).trans (after_concluding s k ending)

theorem Displays.receive {shown : Bool} {failure : Option Error}
    (h : s.Displays (.receiving shown failure)) (i : Increment) :
    (s.receive k shown failure i).Tidy (s.receive k shown failure i).stage := by
  rw [Session.receive]
  split
  · exact h
  · split
    · exact h
    · intro colored
      obtain ⟨frame, hafter, -⟩ := h colored
      refine ⟨false, (after_draw hafter _).trans ?_, by simp⟩
      cases shown <;> rfl

theorem Displays.close (h : s.Displays phase) (hopen : (Phase.closing ending).isOpen = phase.isOpen) :
    (s.close k ending).Displays (.closing ending) := by
  intro colored
  obtain ⟨frame, hafter, hframe⟩ := h colored
  refine ⟨frame, hopen ▸ hafter, fun hshowing => ?_⟩
  obtain ⟨i, due, hi, hticking⟩ := hframe hshowing
  exact ⟨i.release, due, by simp [Session.close, hi], hticking⟩

theorem Displays.turn (h : s.Displays phase) (hm : TurnMove s k phase s') : s'.Tidy s'.stage := by
  cases hm with
  | answered => exact h.close rfl
  | opened => exact h
  | @receive _ _ _ i sink shown failure =>
    have hupdated : Displays { s with service := s.service.updateSink k fun _ => sink }
        (.receiving shown failure) := h
    exact hupdated.receive i
  | seeEnd => exact h.close rfl
  | conclude hended => exact h.conclude hended

theorem Displays.indicator {i i' : Indicator} (h : s.Displays phase) (hi : s.indicator = some i)
    (hstep : i.step s.service.now s.turnIsCancelled = some (i', ds)) :
    Displays ({ s with indicator := some i' }.draw ds) phase := by
  intro colored
  obtain ⟨frame, hafter, hframe⟩ := h colored
  have hticking : frame = true → ∃ due, i.stage = .ticking due := by
    intro hshowing
    obtain ⟨j, due, hj, hticking⟩ := hframe hshowing
    obtain rfl := Option.some.inj (hi.symm.trans hj)
    exact ⟨due, hticking⟩
  obtain ⟨frame', hafter', hframe'⟩ := Display.after_indicator
    (d := { colored, inReply := phase.isOpen, frameShowing := frame }) hstep hticking
  refine ⟨frame', (after_draw hafter _).trans hafter', fun hshowing => ?_⟩
  obtain ⟨due, hdue⟩ := hframe' hshowing
  exact ⟨i', due, rfl, hdue⟩

theorem Tidy.of_eq {stage : Stage} (h : s.Tidy stage) (hd : s'.drawings = s.drawings)
    (hi : s'.indicator = s.indicator) (ha : s.interrupter.armed = none → s'.interrupter.armed = none) :
    s'.Tidy stage := by
  cases stage with
  | awaiting | «over» => exact ⟨ha h.unarmed, hi.trans h.unattended, hd ▸ h.clean⟩
  | inTurn k phase =>
    intro colored
    rw [hd, hi]
    exact h colored

theorem Tidy.does (h : s.Tidy s.stage) (hd : Does s m s') : s'.Tidy s'.stage := by
  cases hd with
  | leave hs =>
    rw [hs] at h
    exact ⟨h.unarmed, h.unattended, h.clean⟩
  | read hs =>
    rw [hs] at h
    have hcleared : s.Cleared := h
    rcases readLine_took s with ⟨-, he⟩ | ⟨e, rest, s₁, -, hbeside, htook⟩
    · rw [he]
      have hprompted := hcleared.prompted []
      exact ⟨hprompted.unarmed, hprompted.unattended, hprompted.clean⟩
    · exact ((hcleared.prompted rest).beside hbeside).took (hbeside.stage_eq.trans hs) htook
  | turn hs hmove =>
    rw [hs] at h
    exact Displays.turn h hmove
  | part => exact h.of_eq rfl rfl fun ha => ha
  | @indicator i i' ds hi hstep =>
    change Tidy _ s.stage
    cases hs : s.stage with
    | awaiting | «over» =>
      rw [hs] at h
      exact absurd (hi.symm.trans h.unattended) (by simp)
    | inTurn k phase =>
      rw [hs] at h
      exact Displays.indicator h hi hstep
  | beside _ _ hbeside =>
    rw [hbeside.stage_eq]
    exact h.of_eq hbeside.drawings_eq hbeside.indicator_eq hbeside.unarmed

/-- The turn with a number is over. -/
def HasOver (s : Session) (k : Nat) : Prop :=
  ∃ t, s.service.turns[k]? = some t ∧ t.stage.IsOver

theorem HasOver.of_core (h : s.HasOver k)
    (hc : s'.service.turns.map Turn.core = s.service.turns.map Turn.core) : s'.HasOver k := by
  obtain ⟨t, ht, hover⟩ := h
  obtain ⟨t', ht', he⟩ := getElem?_of_core hc.symm ht
  obtain ⟨-, hs⟩ := Prod.mk.inj he
  exact ⟨t', ht', hs ▸ hover⟩

theorem HasOver.turn {k' : Nat} (h : s.HasOver k) (hm : TurnMove s k' phase s') : s'.HasOver k := by
  obtain ⟨t, ht, hover⟩ := h
  cases hm with
  | @receive t' feed relay i sink shown failure ht' hs =>
    obtain ⟨shown', failure', events, he⟩ := receive_eq
      { s with service := s.service.updateSink k' fun _ => sink } k' shown failure i
    rw [he]
    by_cases hk : k' = k
    · subst hk
      obtain rfl := Option.some.inj (ht.symm.trans ht')
      rw [hs] at hover
      refine ⟨{ t with stage := .streaming feed { relay with sink } }, ?_, hover⟩
      simp [Service.updateSink, Service.update, ht, hs]
    · exact ⟨t, by simp [Service.updateSink, Service.update, hk, ht], hover⟩
  | _ => exact ⟨t, ht, hover⟩

theorem HasOver.took {reading : Except Error Reading} (h : s.HasOver k)
    (ht : Took s reading s') : s'.HasOver k := by
  cases ht with
  | «over» => exact h
  | turn =>
    obtain ⟨t, ht, hover⟩ := h
    obtain ⟨hk, -⟩ := List.getElem?_eq_some_iff.mp ht
    exact ⟨t, (List.getElem?_append_left hk).trans ht, hover⟩
  | settle _ _ hsettles => exact h.of_core (by rw [hsettles.turns_eq])

theorem HasOver.does (h : s.HasOver k) (hd : Does s m s') : s'.HasOver k := by
  cases hd with
  | leave => exact h
  | read =>
    rcases readLine_took s with ⟨-, he⟩ | ⟨e, rest, s₁, -, hbeside, htook⟩
    · rw [he]
      exact h
    · have hprompted : (s.prompted rest).HasOver k := h
      exact (hprompted.of_core hbeside.core_eq).took htook
  | turn _ hmove => exact h.turn hmove
  | @part j p v hv =>
    obtain ⟨t, ht, hover⟩ := h
    obtain ⟨t₁, t', v', ht₁, hstep, rfl⟩ := Service.step_eq_some_iff.mp hv
    by_cases hj : j = k
    · subst hj
      obtain rfl := Option.some.inj (ht.symm.trans ht₁)
      exact ⟨t', List.getElem?_set_self (List.getElem?_eq_some_iff.mp ht).1,
        (Service.turnStep_move hstep).isOver hover⟩
    · exact ⟨t, (List.getElem?_set_ne hj).trans ht, hover⟩
  | indicator => exact h
  | beside _ _ hbeside => exact h.of_core hbeside.core_eq

theorem HasOver.silent {p : Turn.Part} {v : Service} (h : s.HasOver k)
    (hv : s.service.step k p = some v) : v.archive = s.service.archive := by
  obtain ⟨t, ht, hover⟩ := h
  obtain ⟨t₁, t', v', ht₁, hstep, rfl⟩ := Service.step_eq_some_iff.mp hv
  obtain rfl := Option.some.inj (ht.symm.trans ht₁)
  exact (Service.turnStep_move hstep).archive_eq hover

/-- After a move the indicator is as it was, let go, or a step further; it is gone only if it had
ended. -/
def Attends (s s' : Session) : Prop :=
  ∀ i ∈ s.indicator,
    (∃ i' ∈ s'.indicator, i' = i ∨ i' = i.release ∨
      ∃ ds, i.step s.service.now s.turnIsCancelled = some (i', ds)) ∨
    i.hasEnded = true ∧ s'.indicator = none

/-- Nothing is left of the turns that a session began, the first of which has the number `n`. -/
structure Quiescent (n : Nat) (s : Session) : Prop where
  unarmed : s.interrupter.armed = none
  unattended : s.indicator = none
  /-- None of the turns so far writes to the archive any more, whatever still happens. -/
  silent : ∀ (s' : Session) (k : Nat) (p : Turn.Part) (v : Service), s.Leads s' → n ≤ k →
    k < s.service.turns.length → s'.service.step k p = some v → v.archive = s'.service.archive
  /-- On a display of either kind there is neither an open reply nor a frame. -/
  clean : ∀ colored, Display.after { colored } s.drawings = { colored }

theorem Attends.of_eq (h : s'.indicator = s.indicator) : Attends s s' :=
  fun i hi => .inl ⟨i, h ▸ hi, .inl rfl⟩

theorem attends_of_does (h : s.Tidy s.stage) (hd : Does s m s') : Attends s s' := by
  cases hd with
  | leave | part => exact .of_eq rfl
  | read hs =>
    rw [hs] at h
    intro i hi
    exact absurd (h.unattended.symm.trans hi) (by simp)
  | @turn k _ _ _ hmove =>
    cases hmove with
    | answered | seeEnd =>
      intro i hi
      exact .inl ⟨i.release, by simp [close, Option.mem_def.mp hi], .inr (.inl rfl)⟩
    | opened => exact .of_eq rfl
    | @receive _ _ _ i sink shown failure =>
      obtain ⟨shown', failure', events, he⟩ := receive_eq
        { s with service := s.service.updateSink k fun _ => sink } k shown failure i
      rw [he]
      exact .of_eq rfl
    | conclude hended => exact fun i hi => .inr ⟨hended i hi, rfl⟩
  | @indicator i i' ds hi hstep =>
    intro j hj
    obtain rfl := Option.some.inj (hi.symm.trans hj)
    exact .inl ⟨i', rfl, .inr (.inr ⟨ds, hstep⟩)⟩
  | beside _ _ hbeside => exact .of_eq hbeside.indicator_eq

theorem Quiescent.of_owns {n : Nat} (hs : s.stage = .awaiting) (hcleared : s.Cleared)
    (howns : Owns n s.service.turns s.stage) : s.Quiescent n := by
  refine ⟨hcleared.unarmed, hcleared.unattended, ?_, hcleared.clean⟩
  intro s' k p v hleads hn hk hv
  rw [hs] at howns
  have hover : s.HasOver k :=
    ⟨_, List.getElem?_eq_getElem hk, howns.2 k _ hn (by simp) (List.getElem?_eq_getElem hk)⟩
  exact (hleads.keeps (P := (HasOver · k)) (fun _ h hm => h.does (does_of_step hm)) hover).silent hv

section

variable {service : Service} {settings : Settings} {input : List Entry} {cancelled : Bool}
  {s₀ : Session}

theorem tidy_new (h : Session.new service settings input cancelled = .ok s₀) :
    s₀.Tidy s₀.stage := by
  obtain ⟨_, _, -, rfl⟩ := new_eq_ok_iff.mp h
  exact ⟨rfl, rfl, fun _ => rfl⟩

theorem Leads.tidy (hnew : Session.new service settings input cancelled = .ok s₀)
    (h : s₀.Leads s) : s.Tidy s.stage :=
  h.keeps (P := fun s => s.Tidy s.stage) (fun _ ht hm => ht.does (does_of_step hm)) (tidy_new hnew)

theorem Leads.owns (hnew : Session.new service settings input cancelled = .ok s₀)
    (h : s₀.Leads s) : Owns service.turns.length s.service.turns s.stage :=
  h.keeps (P := fun s => Owns service.turns.length s.service.turns s.stage)
    (fun _ ho hm => ho.does (does_of_step hm)) (owns_new hnew)

/-- Whenever a session is at its prompt, before and while a line is read, nothing is left of its
turns; and no indicator that was started goes out of its hands before it has ended. -/
theorem quiescent_at_prompt (hnew : Session.new service settings input cancelled = .ok s₀) :
    (∀ s, s₀.Leads s → s.stage = .awaiting → ∀ xs : List Interlude,
      (xs.foldl interlude s).Quiescent service.turns.length) ∧
    ∀ s s' m, s₀.Leads s → s.step m = some s' → Attends s s' := by
  constructor
  · intro s hleads hs xs
    have hbeside := beside_interludes s xs
    have htidy := hleads.tidy hnew
    rw [hs] at htidy
    have howns := (hleads.owns hnew).of_core hbeside.core_eq
    rw [← hbeside.stage_eq] at howns
    exact .of_owns (hbeside.stage_eq.trans hs) (Cleared.beside htidy hbeside) howns
  · intro s s' m hleads hm
    exact attends_of_does (hleads.tidy hnew) (does_of_step hm)

/-- A turn that is interrupted in the middle of its reply, with a frame drawn before. -/
theorem quiescent_at_prompt_interrupted :
    let plan : StreamPlan := { capacity := 4, increments := [(0, .ofText "Hel"), (0, .ofText "lo")] }
    let service : Service :=
      { archive := { clock := default }
        generator := { script := [{ whole := .silence, streamed := .ok plan }] } }
    let moves : List Move :=
      [.loop, .indicator, .part 0 .call, .part 0 .call, .loop, .part 0 .feed, .part 0 .relay,
        .part 0 .relay, .part 0 .relay, .loop, .signal .interrupt, .part 0 .relay, .part 0 .relay,
        .loop, .indicator, .loop]
    ∃ s₀ s, Session.new service {} [{ reading := .ok (.line "Hi") }] = .ok s₀ ∧
      moves.foldlM Session.step s₀ = some s ∧ s.stage = .awaiting ∧ s.service.turns.length = 1 ∧
      s.drawings = [.frame "⠋", .beginReply "Assistant", .replyText "Hel", .clearThinking,
        .finishReply, .warning "Cancelled."] ∧
      s.Quiescent 0 := by
  intro plan service moves
  let opened := (Session.new service {} [{ reading := .ok (.line "Hi") }]).toOption
  let run := opened.bind fun s₀ => moves.foldlM Session.step s₀
  obtain ⟨s, hrun⟩ : ∃ s, run = some s := Option.isSome_iff_exists.mp (by decide +kernel)
  have hawaiting : run.map Session.stage = some .awaiting := by decide +kernel
  have hlength : run.map (·.service.turns.length) = some 1 := by decide +kernel
  have hdrawings : run.map drawings = some [.frame "⠋", .beginReply "Assistant", .replyText "Hel",
    .clearThinking, .finishReply, .warning "Cancelled."] := by decide +kernel
  simp only [hrun, Option.map_some, Option.some.injEq] at hawaiting hlength hdrawings
  obtain ⟨s₀, hopened, hmoves⟩ := Option.bind_eq_some_iff.mp hrun
  have hnew := toOption_eq_some_iff.mp hopened
  exact ⟨s₀, s, hnew, hmoves, hawaiting, hlength, hdrawings,
    (quiescent_at_prompt hnew).1 s ⟨moves, hmoves⟩ hawaiting []⟩

end

end Session

end Parley
