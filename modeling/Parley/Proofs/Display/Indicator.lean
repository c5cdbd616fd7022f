import Parley.Indicator
import Parley.Proofs.Runs

/-! # The life of an indicator

An indicator, its owner, the clock and the turn that may be cancelled act in any order. The
indicator draws its frames in turn until it is stopped, dropped or cancelled; then it erases the last
of them, once, and draws nothing more. Its owner learns how many frames there were.
-/

namespace Parley.Indicator

variable {i i' : Indicator} {now : Nat} {cancelled : Bool} {ds : List Drawing}

inductive Move (i : Indicator) (now : Nat) (cancelled : Bool) : Indicator → List Drawing → Prop where

  | fail : i.stage = .fresh → i.interval = 0 → Move i now cancelled { i with stage := .ended } []

  | finish : i.stage ≠ .ended → (i.released || cancelled) = true →
      Move i now cancelled { i with stage := .ended } [.clearThinking]

  | draw {due : Nat} : i.stage = .fresh ∧ due = now ∨ i.stage = .ticking due ∧ due ≤ now →
      (i.released || cancelled) = false →
      Move i now cancelled (i.drawFrame due now).1 [.frame (mark i.frames)]

theorem move_of_step (h : i.step now cancelled = some (i', ds)) : Move i now cancelled i' ds := by
  unfold step at h
  split at h
  · cases h
  · next hs =>
    split at h
    · next hi =>
      obtain ⟨rfl, rfl⟩ := Prod.mk.inj (Option.some.inj h)
      exact .fail hs hi
    · split at h
      · next hover =>
        obtain ⟨rfl, rfl⟩ := Prod.mk.inj (Option.some.inj h)
        exact .finish (by simp [hs]) hover
      · next hover =>
        obtain ⟨rfl, rfl⟩ := Prod.mk.inj (Option.some.inj h)
        exact .draw (.inl ⟨hs, rfl⟩) (by simpa using hover)
  · next due hs =>
    split at h
    · next hover =>
      obtain ⟨rfl, rfl⟩ := Prod.mk.inj (Option.some.inj h)
      exact .finish (by simp [hs]) hover
    · next hover =>
      split at h
      · next hdue =>
        obtain ⟨rfl, rfl⟩ := Prod.mk.inj (Option.some.inj h)
        exact .draw (.inr ⟨hs, hdue⟩) (by simpa using hover)
      · cases h

theorem step_of_over (hi : i.interval ≠ 0) (hs : i.stage ≠ .ended)
    (hover : (i.released || cancelled) = true) (now : Nat) :
    i.step now cancelled = some ({ i with stage := .ended }, [.clearThinking]) := by
  unfold step
  cases hstage : i.stage with
  | fresh => simp only [hi, if_false, hover, if_true]; rfl
  | ticking => simp only [hover, if_true]; rfl
  | ended => exact absurd hstage hs

theorem exists_step_of_not_over (hi : i.interval ≠ 0) (hs : i.stage ≠ .ended)
    (hover : (i.released || cancelled) = false) (now : Nat) :
    ∃ ms i', i.step (now + ms) cancelled = some (i', [.frame (mark i.frames)]) := by
  cases hstage : i.stage with
  | fresh =>
    refine ⟨0, (i.drawFrame now now).1, ?_⟩
    simp only [step, hstage, hi, if_false, hover, Bool.false_eq_true, Nat.add_zero]
    rfl
  | ticking due =>
    refine ⟨due, (i.drawFrame due (now + due)).1, ?_⟩
    simp only [step, hstage, hover, Bool.false_eq_true, if_false, Nat.le_add_left, if_true]
    rfl
  | ended => exact absurd hstage hs

def firstFrames (n : Nat) : List Drawing :=
  (List.range n).map fun k => .frame (mark k)

theorem firstFrames_succ (n : Nat) : firstFrames (n + 1) = firstFrames n ++ [.frame (mark n)] := by
  simp [firstFrames, List.range_succ]

inductive Owner where
  | watching
  | stopping
  /-- It has been told how many frames were drawn. -/
  | told (frames : Nat)
  | gone
  deriving DecidableEq, Repr

/-- An indicator with its owner, the time, and the turn that it belongs to. -/
structure Scene where
  indicator : Indicator
  owner : Owner := .watching
  now : Nat := 0
  cancelled : Bool := false
  drawn : List Drawing := []

namespace Scene

inductive Act where
  | turn
  | wait (ms : Nat)
  | stop
  | tell
  | drop
  | cancel
  deriving DecidableEq, Repr

def Act.ends : Act → Bool
  | .stop | .drop | .cancel => true
  | .turn | .wait _ | .tell => false

def start (interval : Nat) : Scene where
  indicator := { interval }

/-- One act; none if it is not possible at the moment. An owner that has stopped its indicator may
still leave without an answer. -/
def step (w : Scene) : Act → Option Scene
  | .turn => (w.indicator.step w.now w.cancelled).map fun (indicator, drawn) =>
      { w with indicator, drawn := w.drawn ++ drawn }
  | .wait ms => some { w with now := w.now + ms }
  | .stop =>
    if w.owner = .watching then
      some { w with owner := .stopping, indicator := w.indicator.release }
    else none
  | .tell =>
    if w.owner = .stopping ∧ w.indicator.hasEnded = true then
      some { w with owner := .told w.indicator.frames }
    else none
  | .drop =>
    if w.owner = .watching ∨ w.owner = .stopping then
      some { w with owner := .gone, indicator := w.indicator.release }
    else none
  | .cancel => some { w with cancelled := true }

def play (w : Scene) (acts : List Act) : Option Scene :=
  acts.foldlM step w

/-- Whether there was a reason to end. -/
def isOver (w : Scene) : Bool :=
  w.indicator.released || w.cancelled

inductive Next (w : Scene) : Act → Scene → Prop where

  | turn {i : Indicator} {ds : List Drawing} : Move w.indicator w.now w.cancelled i ds →
      Next w .turn { w with indicator := i, drawn := w.drawn ++ ds }

  | wait {ms : Nat} : Next w (.wait ms) { w with now := w.now + ms }

  | stop : w.owner = .watching →
      Next w .stop { w with owner := .stopping, indicator := w.indicator.release }

  | tell : w.owner = .stopping → w.indicator.stage = .ended →
      Next w .tell { w with owner := .told w.indicator.frames }

  | drop : Next w .drop { w with owner := .gone, indicator := w.indicator.release }

  | cancel : Next w .cancel { w with cancelled := true }

variable {w w' : Scene} {act : Act} {acts : List Act} {interval : Nat}

theorem next_of_step (h : w.step act = some w') : Next w act w' := by
  cases act with
  | turn =>
    obtain ⟨⟨i, ds⟩, hi, rfl⟩ := Option.map_eq_some_iff.mp h
    exact .turn (move_of_step hi)
  | wait ms =>
    obtain rfl := Option.some.inj h
    exact .wait
  | stop =>
    obtain ⟨hwatching, h⟩ := Option.ite_none_right_eq_some.mp h
    obtain rfl := Option.some.inj h
    exact .stop hwatching
  | tell =>
    obtain ⟨⟨hstopping, hended⟩, h⟩ := Option.ite_none_right_eq_some.mp h
    obtain rfl := Option.some.inj h
    exact .tell hstopping (by simpa [hasEnded] using hended)
  | drop =>
    obtain ⟨-, h⟩ := Option.ite_none_right_eq_some.mp h
    obtain rfl := Option.some.inj h
    exact .drop
  | cancel =>
    obtain rfl := Option.some.inj h
    exact .cancel

/-- The indicator has drawn its first frames, and erased the last one if it has ended; its owner has
been told their number. -/
structure Lives (w : Scene) : Prop where
  interval_ne : w.indicator.interval ≠ 0
  going : w.indicator.stage ≠ .ended → w.drawn = firstFrames w.indicator.frames
  ended : w.indicator.stage = .ended →
    w.isOver = true ∧ w.drawn = firstFrames w.indicator.frames ++ [.clearThinking]
  told : ∀ n, w.owner = .told n → n = w.indicator.frames ∧ w.indicator.stage = .ended
  stopped : w.owner = .stopping → w.isOver = true

theorem lives_start (hi : interval ≠ 0) : (start interval).Lives where
  interval_ne := hi
  going _ := rfl
  ended h := by cases h
  told _ h := by cases h
  stopped h := by cases h

theorem Lives.turn (h : w.Lives) (hm : Move w.indicator w.now w.cancelled i ds) :
    Lives { w with indicator := i, drawn := w.drawn ++ ds } := by
  cases hm with
  | fail _ hi => exact absurd hi h.interval_ne
  | finish hs hover =>
    refine ⟨h.interval_ne, fun hs' => absurd rfl hs', fun _ => ⟨hover, ?_⟩, fun n hn => ?_,
      h.stopped⟩
    · rw [h.going hs]
    · exact absurd (h.told n hn).2 hs
  | draw hdue hover =>
    have hs : w.indicator.stage ≠ .ended := by
      rcases hdue with ⟨hs, -⟩ | ⟨hs, -⟩ <;> simp [hs]
    refine ⟨h.interval_ne, fun _ => ?_, nofun, fun n hn => ?_, h.stopped⟩
    · rw [h.going hs, drawFrame, firstFrames_succ]
    · exact absurd (h.told n hn).2 hs

theorem Lives.next (h : w.Lives) (hn : Next w act w') : w'.Lives := by
  cases hn with
  | turn hm => exact h.turn hm
  | wait => exact ⟨h.interval_ne, h.going, h.ended, h.told, h.stopped⟩
  | stop =>
    exact ⟨h.interval_ne, h.going, fun hs => ⟨rfl, (h.ended hs).2⟩, nofun, fun _ => rfl⟩
  | tell _ hs =>
    exact ⟨h.interval_ne, h.going, h.ended, fun n hn => ⟨(Owner.told.inj hn).symm, hs⟩, nofun⟩
  | drop => exact ⟨h.interval_ne, h.going, fun hs => ⟨rfl, (h.ended hs).2⟩, nofun, nofun⟩
  | cancel =>
    have hover : isOver { w with cancelled := true } = true := Bool.or_true _
    exact ⟨h.interval_ne, h.going, fun hs => ⟨hover, (h.ended hs).2⟩, h.told, fun _ => hover⟩

theorem Lives.play (h : w.Lives) (hplay : w.play acts = some w') : w'.Lives :=
  keeps_foldlM (fun _ h hstep => h.next (next_of_step hstep)) hplay h

theorem isOver_next (hn : Next w act w') : w'.isOver = (w.isOver || act.ends) := by
  cases hn with
  | turn hm => cases hm <;> simp [isOver, Act.ends, drawFrame]
  | wait | stop | tell | drop | cancel => simp [isOver, Act.ends, release]

theorem isOver_play (h : w.play acts = some w') : w'.isOver = (w.isOver || acts.any Act.ends) :=
  @keeps_foldlM_from _ _ _ w w' [] acts (fun acts v => v.isOver = (w.isOver || acts.any Act.ends))
    (fun act hv hstep => by
      rw [isOver_next (next_of_step hstep), hv, List.any_append, List.any_cons, List.any_nil,
        Bool.or_false, Bool.or_assoc]) h (Bool.or_false _).symm

theorem frames_next (hover : w.isOver = true) (hn : Next w act w') :
    w'.indicator.frames = w.indicator.frames := by
  cases hn with
  | turn hm =>
    cases hm with
    | fail | finish => rfl
    | draw _ hgoing => exact absurd (hgoing.symm.trans hover) Bool.false_ne_true
  | wait | stop | tell | drop | cancel => rfl

theorem frames_play (hover : w.isOver = true) (h : w.play acts = some w') :
    w'.indicator.frames = w.indicator.frames := by
  have hkeeps := keeps_foldlM (P := fun v => v.isOver = true ∧
    v.indicator.frames = w.indicator.frames) (fun act ⟨hv, hframes⟩ hstep =>
      ⟨by rw [isOver_next (next_of_step hstep), hv, Bool.true_or],
        (frames_next hv (next_of_step hstep)).trans hframes⟩) h ⟨hover, rfl⟩
  exact hkeeps.2

theorem ended_next (hs : w.indicator.stage = .ended) (hn : Next w act w') :
    w'.indicator.stage = .ended := by
  cases hn with
  | turn hm =>
    cases hm with
    | fail | finish => rfl
    | draw hdue =>
      rcases hdue with ⟨hfresh, -⟩ | ⟨hticking, -⟩
      · cases hs.symm.trans hfresh
      · cases hs.symm.trans hticking
  | wait | stop | tell | drop | cancel => exact hs

theorem Lives.drawn_eq (h : w.Lives) : w.drawn = firstFrames w.indicator.frames ++
    if w.indicator.stage = .ended then [.clearThinking] else [] := by
  split
  · next hs => exact (h.ended hs).2
  · next hs => rw [h.going hs, List.append_nil]

theorem Lives.drawn_play (h : w.Lives) (hs : w.indicator.stage = .ended)
    (hplay : w.play acts = some w') : w'.drawn = w.drawn := by
  obtain ⟨hover, hdrawn⟩ := h.ended hs
  have hs' : w'.indicator.stage = .ended :=
    keeps_foldlM (P := fun v => v.indicator.stage = .ended)
      (fun _ hs hstep => ended_next hs (next_of_step hstep)) hplay hs
  rw [((h.play hplay).ended hs').2, hdrawn, frames_play hover hplay]

/-- An indicator that has a reason to end does so with its next step. -/
theorem Lives.step_turn (h : w.Lives) (hover : w.isOver = true) (hs : w.indicator.stage ≠ .ended) :
    ∃ w', w.step .turn = some w' ∧ w'.indicator.stage = .ended ∧ w'.owner = w.owner ∧
      w'.drawn = firstFrames w.indicator.frames ++ [.clearThinking] := by
  have hturn : w.step .turn = some { w with
      indicator := { w.indicator with stage := .ended }, drawn := w.drawn ++ [.clearThinking] } := by
    rw [step, step_of_over h.interval_ne hs hover]
    rfl
  refine ⟨_, hturn, rfl, rfl, ?_⟩
  rw [h.going hs]

theorem Lives.going_on (h : w.Lives) (hgoing : w.isOver = false) : w.indicator.stage ≠ .ended :=
  fun hs => Bool.false_ne_true (hgoing.symm.trans (h.ended hs).1)

theorem Lives.play_frame (h : w.Lives) (hgoing : w.isOver = false) :
    ∃ ms w', w.play [.wait ms, .turn] = some w' ∧ w'.drawn = firstFrames (w.indicator.frames + 1) := by
  have hs := h.going_on hgoing
  obtain ⟨ms, i, hstep⟩ := exists_step_of_not_over h.interval_ne hs hgoing w.now
  have hturn : Scene.step { w with now := w.now + ms } .turn = some { w with
      now := w.now + ms, indicator := i, drawn := w.drawn ++ [.frame (mark w.indicator.frames)] } := by
    rw [step, hstep]
    rfl
  refine ⟨ms, _, foldlM_cons_iff.mpr ⟨_, rfl, foldlM_cons_iff.mpr ⟨_, hturn, rfl⟩⟩, ?_⟩
  rw [h.going hs, firstFrames_succ]

theorem Lives.play_tell (h : w.Lives) (hstopping : w.owner = .stopping) :
    ∃ acts w', acts ⊆ [.turn, .tell] ∧ w.play acts = some w' ∧
      w'.owner = .told w.indicator.frames := by
  have htell {v : Scene} (hs : v.indicator.stage = .ended) (ho : v.owner = .stopping) :
      v.step .tell = some { v with owner := .told v.indicator.frames } := by
    simp [step, hasEnded, hs, ho]
  by_cases hs : w.indicator.stage = .ended
  · exact ⟨[.tell], _, by simp, foldlM_cons_iff.mpr ⟨_, htell hs hstopping, rfl⟩, rfl⟩
  · have hover := h.stopped hstopping
    obtain ⟨v, hv, hended, howner, -⟩ := h.step_turn hover hs
    refine ⟨[.turn, .tell], _, by simp, foldlM_cons_iff.mpr ⟨v, hv, foldlM_cons_iff.mpr
      ⟨_, htell hended (howner.trans hstopping), rfl⟩⟩, ?_⟩
    rw [frames_next hover (next_of_step hv)]

/-- An indicator draws its frames in turn, and one more whenever the time has come, until it is
stopped, dropped or cancelled. After that it draws no frame; its next step erases the last one, and
nothing follows. An owner that has stopped it is told the number of frames, also if it had ended
before. -/
theorem frames_then_erasure (hi : interval ≠ 0) (h : (start interval).play acts = some w) :
    (w.drawn = firstFrames w.indicator.frames ++
      if w.indicator.stage = .ended then [.clearThinking] else []) ∧
    (acts.any Act.ends = false → w.indicator.stage ≠ .ended ∧ ∃ ms w',
      w.play [.wait ms, .turn] = some w' ∧ w'.drawn = firstFrames (w.indicator.frames + 1)) ∧
    (acts.any Act.ends = true →
      (∀ more w', w.play more = some w' → w'.drawn = firstFrames w.indicator.frames ++
        if w'.indicator.stage = .ended then [.clearThinking] else []) ∧
      (w.indicator.stage ≠ .ended → ∃ w', w.step .turn = some w' ∧
        w'.drawn = firstFrames w.indicator.frames ++ [.clearThinking])) ∧
    (w.indicator.stage = .ended → ∀ more w', w.play more = some w' → w'.drawn = w.drawn) ∧
    (∀ n, w.owner = .told n → n = w.indicator.frames ∧ w.indicator.stage = .ended) ∧
    (w.owner = .stopping → ∃ more w', more ⊆ [.turn, .tell] ∧ w.play more = some w' ∧
      w'.owner = .told w.indicator.frames) := by
  have hlives := (lives_start hi).play h
  have hover : w.isOver = acts.any Act.ends := (isOver_play h).trans (Bool.false_or _)
  refine ⟨hlives.drawn_eq, fun hgoing => ?_, fun hends => ⟨fun more w' hmore => ?_, fun hs => ?_⟩,
    fun hs more w' => hlives.drawn_play hs, hlives.told, hlives.play_tell⟩
  · rw [← hover] at hgoing
    exact ⟨hlives.going_on hgoing, hlives.play_frame hgoing⟩
  · rw [(hlives.play hmore).drawn_eq, frames_play (hover.trans hends) hmore]
  · obtain ⟨w', hw', -, -, hdrawn⟩ := hlives.step_turn (hover.trans hends) hs
    exact ⟨w', hw', hdrawn⟩

/-- A third frame would have been due, but the turn is cancelled before; the owner stops the indicator
only when it has ended. -/
theorem frames_then_erasure_cancelled :
    ∃ w, (start 100).play [.turn, .wait 250, .turn, .cancel, .wait 100, .turn, .stop, .tell] = some w ∧
      w.owner = .told 2 ∧ w.drawn = [.frame "⠋", .frame "⠙", .clearThinking] := by
  obtain ⟨w, h, howner⟩ : ∃ w, (start 100).play [.turn, .wait 250, .turn, .cancel, .wait 100, .turn,
      .stop, .tell] = some w ∧ w.owner = .told 2 := ⟨_, rfl, rfl⟩
  obtain ⟨hdrawn, -, -, -, htold, -⟩ := frames_then_erasure (by decide) h
  obtain ⟨hframes, hended⟩ := htold 2 howner
  refine ⟨w, h, howner, ?_⟩
  rw [hdrawn, ← hframes, if_pos hended]
  rfl

end Scene

end Parley.Indicator
