import Parley.Proofs.Session.Reading
import Parley.Proofs.Session.Turns

/-! # The turns of one session

A session has at most one turn under way. All its other turns are over, and a turn that is over
writes nothing. This holds whatever becomes of the archive, and whatever other turns the service has.
-/

namespace Parley

namespace Turn

/-- A turn whose stream, if there is one, has a reader that stays. -/
def Listened (t : Turn) : Prop :=
  ∀ feed relay, t.stage = .streaming feed relay → relay.Listened

end Turn

namespace Service

variable {s s' u : Service} {t t' : Turn} {k : Nat} {part : Turn.Part}

theorem Move.isOver (hm : Move s t t' s') (h : t.stage.IsOver) : t'.stage.IsOver := by
  have hsuits : (Session.Phase.closing (.streamed false none)).Suits t.stage := h
  exact hsuits.move hm

theorem Move.archive_eq (hm : Move s t t' s') (h : t.stage.IsOver) : s'.archive = s.archive := by
  cases hm with
  | call hm => cases hm <;> simp_all [Turn.Stage.IsOver]
  | feed => rfl
  | relay hs hr =>
    rw [hs] at h
    exact (hr.of_isOver h).1

theorem Move.listened (hm : Move s t t' s') (h : t.Listened) : t'.Listened := by
  cases hm with
  | call hm =>
    cases hm with
    | stream =>
      rintro _ _ ⟨⟩
      exact ⟨rfl, rfl, fun hc => by cases hc⟩
    | _ => rintro _ _ ⟨⟩
  | feed hs =>
    rintro _ _ ⟨⟩
    exact (h _ _ hs).setSource _
  | relay hs hr =>
    rintro _ _ ⟨⟩
    exact (h _ _ hs).move hr

end Service

namespace Session

open Service

/-- The turns from one number on are over, but for one that may be under way. -/
def OthersOver (n : Nat) (k : Option Nat) (turns : List Turn) : Prop :=
  ∀ (i : Nat) (t : Turn), n ≤ i → k ≠ some i → turns[i]? = some t → t.stage.IsOver

/-- The last turn is under way, and as far as the session has come with it. -/
structure Serves (n k : Nat) (phase : Phase) (turns : List Turn) : Prop where
  own : n ≤ k
  last : k + 1 = turns.length
  others : OthersOver n (some k) turns
  here : ∃ t, turns[k]? = some t ∧ phase.Suits t.stage ∧ t.Listened

def Owns (n : Nat) (turns : List Turn) : Stage → Prop
  | .awaiting | .over _ => n ≤ turns.length ∧ OthersOver n none turns
  | .inTurn k phase => Serves n k phase turns

variable {n k i : Nat} {turns turns' : List Turn} {stage : Stage} {phase : Phase} {s s' : Session}
  {t t' : Turn} {m : Move}

theorem OthersOver.of_core {k : Option Nat} (h : OthersOver n k turns)
    (hc : turns'.map Turn.core = turns.map Turn.core) : OthersOver n k turns' := by
  intro i t hn hk ht
  obtain ⟨t', ht', he⟩ := getElem?_of_core hc ht
  obtain ⟨-, hs⟩ := Prod.mk.inj he
  rw [hs]
  exact h i t' hn hk ht'

theorem Owns.of_core (h : Owns n turns stage) (hc : turns'.map Turn.core = turns.map Turn.core) :
    Owns n turns' stage := by
  have hlength : turns'.length = turns.length := by simpa using congrArg List.length hc
  cases stage with
  | awaiting | «over» => exact ⟨hlength ▸ h.1, h.2.of_core hc⟩
  | inTurn k phase =>
    obtain ⟨hown, hlast, hothers, t, ht, hsuits, hlistened⟩ := h
    obtain ⟨t', ht', he⟩ := getElem?_of_core hc.symm ht
    obtain ⟨-, hs⟩ := Prod.mk.inj he
    refine ⟨hown, hlength ▸ hlast, hothers.of_core hc, t', ht', hs ▸ hsuits, ?_⟩
    rw [Turn.Listened, ← hs]
    exact hlistened

theorem OthersOver.set {j : Option Nat} (h : OthersOver n j turns)
    (hover : n ≤ i → j ≠ some i → t'.stage.IsOver) : OthersOver n j (turns.set i t') := by
  intro l t hn hj ht
  rcases getElem?_set_cases ht with ⟨rfl, rfl⟩ | ⟨ht, -⟩
  · exact hover hn hj
  · exact h l t hn hj ht

theorem Owns.part {v u : Service} {p : Turn.Part} (h : Owns n v.turns stage)
    (hu : v.step i p = some u) : Owns n u.turns stage := by
  obtain ⟨t, t', v', ht, hstep, rfl⟩ := step_eq_some_iff.mp hu
  have hm := turnStep_move hstep
  cases stage with
  | awaiting | «over» =>
    exact ⟨by simpa using h.1, h.2.set fun hn hk => hm.isOver (h.2 i t hn hk ht)⟩
  | inTurn k phase =>
    obtain ⟨hown, hlast, hothers, t₁, ht₁, hsuits, hlistened⟩ := h
    refine ⟨hown, by simpa using hlast,
      hothers.set fun hn hk => hm.isOver (hothers i t hn hk ht), ?_⟩
    by_cases hi : i = k
    · subst hi
      obtain rfl := Option.some.inj (ht.symm.trans ht₁)
      obtain ⟨hk, -⟩ := List.getElem?_eq_some_iff.mp ht
      exact ⟨t', List.getElem?_set_self hk, hsuits.move hm, hm.listened hlistened⟩
    · exact ⟨t₁, by rwa [List.getElem?_set_ne hi], hsuits, hlistened⟩

theorem Owns.begin (h : Owns n s.service.turns .awaiting) (text : String) :
    Owns n (s.beginTurn text).service.turns (s.beginTurn text).stage := by
  obtain ⟨hn, hover⟩ := h
  obtain ⟨t, hturns, hstage⟩ : ∃ t : Turn, (s.beginTurn text).service.turns = s.service.turns ++ [t] ∧
      t.stage = .asked text := ⟨_, rfl, rfl⟩
  have hs : (s.beginTurn text).stage = .inTurn s.service.turns.length .calling := rfl
  rw [hs, hturns]
  refine ⟨hn, by simp, fun i u hni hk hu => ?_, t, by simp, trivial, ?_⟩
  · rcases getElem?_concat_cases hu with hu | ⟨rfl, -⟩
    · exact hover i u hni (by simp) hu
    · exact absurd rfl hk
  · intro feed relay hrelay
    simp [hstage] at hrelay

theorem Owns.took {reading : Except Error Reading} (h : Owns n s.service.turns s.stage)
    (hs : s.stage = .awaiting) (ht : Took s reading s') : Owns n s'.service.turns s'.stage := by
  rw [hs] at h
  cases ht with
  | «over» => exact h
  | turn => exact h.begin _
  | settle _ _ hsettles =>
    rw [hsettles.turns_eq, hsettles.stage_eq, hs]
    exact h

theorem Serves.enter {phase' : Phase} (h : Serves n k phase turns)
    (hsuits : ∀ t, turns[k]? = some t → t.Listened → phase'.Suits t.stage) :
    Serves n k phase' turns := by
  obtain ⟨hown, hlast, hothers, t, ht, -, hlistened⟩ := h
  exact ⟨hown, hlast, hothers, t, ht, hsuits t ht hlistened, hlistened⟩

theorem Serves.receive {feed : Feed} {relay : Relay} {j : Increment} {sink : Channel Increment}
    {v : Service} (h : Serves n k phase v.turns) (ht : v.turns[k]? = some t)
    (hs : t.stage = .streaming feed relay) (hr : relay.sink.receive = .item j sink)
    (shown : Bool) (failure : Option Error) :
    Serves n k (.receiving shown failure) (v.updateSink k fun _ => sink).turns := by
  obtain ⟨hown, hlast, hothers, t₁, ht₁, -, hlistened⟩ := h
  obtain rfl := Option.some.inj (ht.symm.trans ht₁)
  obtain ⟨-, hsink⟩ := Channel.receive_eq_item_iff.mp hr
  have hhere : (v.updateSink k fun _ => sink).turns[k]? =
      some { t with stage := .streaming feed { relay with sink } } := by
    simp [Service.updateSink, update, ht, hs]
  refine ⟨hown, by simpa [Service.updateSink, update] using hlast, fun i u hn hk hu => ?_, _, hhere,
    ⟨_, _, rfl⟩, ?_⟩
  · have hi : k ≠ i := fun he => hk (congrArg some he)
    simp only [Service.updateSink, update, List.getElem?_modify, if_neg hi] at hu
    exact hothers i u hn hk (by simpa using hu)
  · rintro _ _ ⟨⟩
    obtain ⟨hopen, hgone, hclosed⟩ := hlistened feed relay hs
    rw [hsink]
    exact ⟨hopen, hgone, hclosed⟩

/-- A turn that its session waits for no longer is over. -/
theorem Serves.conclude (h : Serves n k phase turns)
    (hover : ∀ t, turns[k]? = some t → t.stage.IsOver) : Owns n turns .awaiting := by
  obtain ⟨hown, hlast, hothers, -⟩ := h
  refine ⟨by omega, fun i t hn _ ht => ?_⟩
  by_cases hi : k = i
  · exact hover t (hi ▸ ht)
  · exact hothers i t hn (fun he => hi (Option.some.inj he)) ht

theorem Owns.turn (h : Owns n s.service.turns (.inTurn k phase)) (hmove : TurnMove s k phase s') :
    Owns n s'.service.turns s'.stage := by
  have hserves : Serves n k phase s.service.turns := h
  cases hmove with
  | answered ht hs =>
    refine hserves.enter fun t ht' _ => ?_
    obtain rfl := Option.some.inj (ht.symm.trans ht')
    rw [Phase.Suits, hs]
    trivial
  | opened ht hs =>
    refine hserves.enter fun t ht' _ => ?_
    obtain rfl := Option.some.inj (ht.symm.trans ht')
    exact ⟨_, _, hs⟩
  | @receive _ _ _ i sink shown failure ht hs hr =>
    obtain ⟨shown', failure', events, he⟩ := receive_eq
      { s with service := s.service.updateSink k fun _ => sink } k shown failure i
    rw [he]
    exact hserves.receive ht hs hr shown' failure'
  | seeEnd ht hs hr =>
    refine hserves.enter fun t ht' hlistened => ?_
    obtain rfl := Option.some.inj (ht.symm.trans ht')
    rw [Phase.Suits, hs]
    exact (hlistened _ _ hs).closed (Channel.receive_eq_closed_iff.mp hr).2
  | conclude =>
    obtain ⟨-, -, -, t, ht, hsuits, -⟩ := h
    exact hserves.conclude fun t' ht' => Option.some.inj (ht.symm.trans ht') ▸ hsuits

theorem Owns.does (h : Owns n s.service.turns s.stage) (hd : Does s m s') :
    Owns n s'.service.turns s'.stage := by
  cases hd with
  | leave hs =>
    rw [hs] at h
    exact h
  | read hs =>
    rcases readLine_took s with ⟨-, he⟩ | ⟨e, rest, s₁, -, hbeside, htook⟩
    · rw [he]
      rw [hs] at h
      exact h
    · have hstage : s₁.stage = .awaiting := hbeside.stage_eq.trans hs
      rw [hs, ← hstage] at h
      exact (h.of_core hbeside.core_eq).took hstage htook
  | turn hs hmove =>
    rw [hs] at h
    exact h.turn hmove
  | part hv => exact h.part hv
  | indicator => exact h
  | beside _ _ hbeside =>
    rw [hbeside.stage_eq]
    exact h.of_core hbeside.core_eq

theorem owns_new {service : Service} {settings : Settings} {input : List Entry} {cancelled : Bool}
    (h : Session.new service settings input cancelled = .ok s) :
    Owns service.turns.length s.service.turns s.stage := by
  obtain ⟨_, _, -, rfl⟩ := new_eq_ok_iff.mp h
  refine ⟨Nat.le_refl _, fun i t hn _ ht => ?_⟩
  obtain ⟨hi, -⟩ := List.getElem?_eq_some_iff.mp ht
  exact absurd hi (Nat.not_lt.mpr hn)

end Session

end Parley
