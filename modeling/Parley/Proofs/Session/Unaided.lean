import Parley.Proofs.Session.Onward
import Parley.Proofs.Session.Own
import Parley.Proofs.Turn.Headway

/-! # Sessions that go on by themselves

As long as no signal comes from outside and no line is read, a session, its indicator and the parts
of its turns leave all tokens alone. By such moves alone a turn that was cancelled comes to its end,
whatever its generator still does or fails to do.
-/

namespace Parley

theorem Relay.Move.leaves {c : Bool} {r r' : Relay} {a a' : Archive} {o : Relay.Outcome}
    (hm : Relay.Move c r a r' a') (h : r'.stage = .ended o) : r'.sink.senderOpen = false := by
  cases hm with
  | @skip i p | @pass i p | @loseReader i p =>
    rcases Relay.passed_cases _ i p with ⟨-, he⟩ | ⟨-, he⟩ | ⟨-, he⟩ <;> rw [he] at h <;> cases h
  | @withdraw i p =>
    rcases Relay.withdrawn_cases r i p with ⟨-, he⟩ | ⟨-, he⟩ <;> rw [he] at h <;> cases h
  | finish => rfl
  | _ => cases h

theorem Relay.toDo_receive_lt {r : Relay} {i : Increment} {sink : Channel Increment}
    (h : r.sink.receive = .item i sink) : Relay.toDo { r with sink } < r.toDo := by
  obtain ⟨hitems, -⟩ := Channel.receive_eq_item_iff.mp h
  simp only [Relay.toDo, hitems, List.length_cons]
  omega

theorem Relay.step_isSome_of_cancelled (r : Relay) (a : Archive) (h : ∀ o, r.stage ≠ .ended o) :
    (r.step true a).isSome := by
  cases hs : r.stage with
  | awaiting => simp [step, hs, await]
  | forwarding i p =>
    simp only [step, hs, forward]
    split
    · rfl
    · rfl
  | ended o => exact absurd hs (h o)
  | _ => simp [step, hs]

namespace Turn

/-- The relay of the turn, if it has ended, has left its reader. -/
def Leaves (t : Turn) : Prop :=
  ∀ feed relay o, t.stage = .streaming feed relay → relay.stage = .ended o →
    relay.sink.senderOpen = false

end Turn

namespace Service

variable {s s' u : Service} {t t' : Turn} {k : Nat} {p : Turn.Part}

theorem Move.leaves (hm : Move s t t' s') (h : t.Leaves) : t'.Leaves := by
  cases hm with
  | call hm =>
    cases hm with
    | stream =>
      rintro _ _ o ⟨⟩ ho
      cases ho
    | _ => rintro _ _ _ ⟨⟩
  | @feed feed _ relay _ hs =>
    rintro _ _ o ⟨⟩ ho
    exact h feed relay o hs ho
  | relay _ hr =>
    rintro _ _ o ⟨⟩ ho
    exact hr.leaves ho

theorem map_cancelled_of_step (hu : s.step k p = some u) :
    u.turns.map Turn.cancelled = s.turns.map Turn.cancelled := by
  obtain ⟨t, t', v, ht, hstep, rfl⟩ := step_eq_some_iff.mp hu
  obtain ⟨hk, rfl⟩ := List.getElem?_eq_some_iff.mp ht
  have hset : (s.turns.map Turn.cancelled).set k (s.turns[k]).cancelled =
      s.turns.map Turn.cancelled := by
    rw [← List.map_set, List.set_getElem_self]
  rw [List.map_set, (turnStep_move hstep).cancelled_eq]
  exact hset

theorem map_cancelled_updateSink (s : Service) (k : Nat)
    (f : Channel Increment → Channel Increment) :
    (s.updateSink k f).turns.map Turn.cancelled = s.turns.map Turn.cancelled := by
  refine map_modify_of_eq (fun t => ?_) s.turns k
  split <;> rfl

/-- A call whose turn is cancelled gets an answer from its generator, however silent that is. -/
theorem callStep_isSome_of_cancelled (s : Service) (hc : t.cancelled = true)
    (hleft : t.stage.callsLeft ≠ 0) :
    ∃ due, ∀ now, due ≤ now → (callStep { s with now } t).isSome := by
  cases hs : t.stage with
  | asked text => exact ⟨0, fun now _ => by simp [callStep, hs]⟩
  | generating p due =>
    refine ⟨due, fun now hnow => ?_⟩
    have hdue : ¬ now < due := by omega
    cases hd : t.delivery with
    | blocking =>
      simp only [callStep, hs, hd, hc, Performance.reply?, if_neg hdue]
      split
      · rfl
      · split <;> rfl
    | streaming =>
      simp only [callStep, hs, hd, Performance.stream?, if_neg hdue]
      split <;> rfl
  | replied answer => exact ⟨0, fun now _ => by simp [callStep, hs]⟩
  | answered | streaming => simp [hs, Turn.Stage.callsLeft] at hleft

end Service

namespace Session

open Service

variable {s s' u : Session} {n k : Nat} {phase : Phase} {ending : Ending} {t : Turn} {m : Move}

/-- A turn that is about to be concluded has let its indicator go. -/
def Released (s : Session) : Prop :=
  ∀ k ending, s.stage = .inTurn k (.closing ending) → ∀ i ∈ s.indicator, i.released = true

theorem released_step_eq {i i' : Indicator} {now : Nat} {c : Bool} {drawn : List Drawing}
    (h : i.step now c = some (i', drawn)) : i'.released = i.released := by
  cases Indicator.move_of_step h <;> rfl

theorem ends_of_released {i : Indicator} (h : i.released = true) (hended : i.hasEnded = false)
    (now : Nat) (c : Bool) : ∃ i' drawn, i.step now c = some (i', drawn) ∧ i'.hasEnded = true := by
  unfold Indicator.step
  cases hs : i.stage with
  | fresh =>
    simp only [h, Bool.true_or, if_true]
    split
    · exact ⟨_, _, rfl, rfl⟩
    · exact ⟨_, _, rfl, rfl⟩
  | ticking due =>
    simp only [h, Bool.true_or, if_true]
    exact ⟨_, _, rfl, rfl⟩
  | ended => simp [Indicator.hasEnded, hs] at hended

theorem released_of_stage (h : ∀ k ending, s.stage ≠ .inTurn k (.closing ending)) : s.Released :=
  fun k ending hs => absurd hs (h k ending)

theorem TurnMove.released (h : TurnMove s k phase s') : s'.Released := by
  have hclose (ending : Ending) : (s.close k ending).Released := by
    intro _ _ _ i hi
    obtain ⟨i, -, rfl⟩ := Option.map_eq_some_iff.mp hi
    rfl
  cases h with
  | answered | seeEnd => exact hclose _
  | @receive _ _ _ i sink shown failure =>
    obtain ⟨shown', failure', events, he⟩ := receive_eq
      { s with service := s.service.updateSink k fun _ => sink } k shown failure i
    rw [he]
    exact released_of_stage (by simp)
  | opened | conclude =>
    intro _ _ hs
    cases hs

theorem Took.released {reading : Except Error Reading} (hs : s.stage = .awaiting)
    (ht : Took s reading s') : s'.Released := by
  cases ht with
  | «over» => exact released_of_stage (by simp)
  | turn => exact released_of_stage (by simp [beginTurn])
  | settle _ _ hsettles => exact released_of_stage (by simp [hsettles.stage_eq, hs])

theorem Released.beside (h : s.Released) (hb : Beside s s') : s'.Released := by
  intro k ending hs i hi
  rw [hb.stage_eq] at hs
  rw [hb.indicator_eq] at hi
  exact h k ending hs i hi

theorem Released.does (h : s.Released) (hd : Does s m s') : s'.Released := by
  cases hd with
  | leave => exact released_of_stage (by simp)
  | read hs =>
    rcases readLine_took s with ⟨-, he⟩ | ⟨e, rest, s₁, -, hbeside, htook⟩
    · rw [he]
      exact released_of_stage (by simp)
    · exact htook.released (hbeside.stage_eq.trans hs)
  | turn _ hmove => exact hmove.released
  | part => exact h
  | indicator hi hstep =>
    intro k ending hs j hj
    obtain rfl := Option.some.inj hj
    rw [released_step_eq hstep]
    exact h k ending hs _ hi
  | beside _ _ hbeside => exact h.beside hbeside

/-- A move that is no signal from outside. -/
def Move.IsOwn (m : Move) : Prop :=
  m ≠ .alarm ∧ ∀ x, m ≠ .signal x

/-- Some moves lead from one session to the other that are no signals and read no line. -/
structure GoesOn (s s' : Session) : Prop where
  moves : ∃ ms : List Move, (∀ m ∈ ms, m.IsOwn) ∧ ms.foldlM step s = some s'
  input_eq : s'.input = s.input
  cancelled_eq : s'.cancelled = s.cancelled
  tokens_eq : s'.service.turns.map Turn.cancelled = s.service.turns.map Turn.cancelled

theorem GoesOn.refl (s : Session) : GoesOn s s :=
  ⟨⟨[], by simp, rfl⟩, rfl, rfl, rfl⟩

theorem GoesOn.trans (h : GoesOn s s') (h' : GoesOn s' u) : GoesOn s u := by
  obtain ⟨ms, hown, hms⟩ := h.moves
  obtain ⟨ms', hown', hms'⟩ := h'.moves
  refine ⟨⟨ms ++ ms', ?_, by simp [List.foldlM_append, hms, hms']⟩, h'.input_eq.trans h.input_eq,
    h'.cancelled_eq.trans h.cancelled_eq, h'.tokens_eq.trans h.tokens_eq⟩
  intro m hm
  rcases List.mem_append.mp hm with hm | hm
  · exact hown m hm
  · exact hown' m hm

theorem GoesOn.leads (h : GoesOn s s') : s.Leads s' := by
  obtain ⟨ms, -, hms⟩ := h.moves
  exact ⟨ms, hms⟩

theorem goesOn_of_step (hown : m.IsOwn) (hm : s.step m = some s') (hinput : s'.input = s.input)
    (hc : s'.cancelled = s.cancelled)
    (htokens : s'.service.turns.map Turn.cancelled = s.service.turns.map Turn.cancelled) :
    GoesOn s s' :=
  ⟨⟨[m], by simpa using hown, by simp [hm]⟩, hinput, hc, htokens⟩

theorem isOwn_loop : Move.IsOwn .loop :=
  ⟨by simp, by simp⟩

theorem loop_turnMove (hs : s.stage = .inTurn k phase) (h : TurnMove s k phase s') :
    s.step .loop = some s' := by
  simp only [Session.step, loopStep, hs]
  exact turnStep_eq_some_iff.mpr h

theorem loop_readLine (hs : s.stage = .awaiting) (hc : s.cancelled = false) :
    s.step .loop = some s.readLine := by
  simp [Session.step, loopStep, hs, hc]

theorem exists_later (s : Session) (due : Nat) :
    ∃ now, due ≤ now ∧ GoesOn s { s with service := { s.service with now } } := by
  by_cases hlt : s.service.now < due
  · refine ⟨due, Nat.le_refl due, goesOn_of_step (m := .wait due) ⟨by simp, by simp⟩ ?_ rfl rfl rfl⟩
    simp [Session.step, hlt]
  · exact ⟨s.service.now, by omega, .refl s⟩

theorem exists_part {p : Turn.Part} {due : Nat} {Q : Turn → Prop}
    (ht : s.service.turns[k]? = some t) (hstep : ∀ now, due ≤ now → ∃ t' v,
      Service.turnStep { s.service with now } t p = some (t', v) ∧ Q t') :
    ∃ s' t', GoesOn s s' ∧ s'.stage = s.stage ∧ s'.service.turns[k]? = some t' ∧ Q t' := by
  obtain ⟨now, hdue, hwait⟩ := exists_later s due
  obtain ⟨t', v, hpart, hQ⟩ := hstep now hdue
  obtain ⟨hk, -⟩ := List.getElem?_eq_some_iff.mp ht
  let v' : Service := { v with turns := s.service.turns.set k t' }
  have hservice : Service.step { s.service with now } k p = some v' :=
    step_eq_some_iff.mpr ⟨t, t', v, ht, hpart, rfl⟩
  refine ⟨{ s with service := v' }, t', hwait.trans ?_, rfl, List.getElem?_set_self hk, hQ⟩
  exact goesOn_of_step (m := .part k p) ⟨by simp, by simp⟩ (by simp [Session.step, hservice])
    rfl rfl (map_cancelled_of_step hservice)

theorem called_goesOn (hs : s.stage = .inTurn k .calling) (ht : s.service.turns[k]? = some t)
    (hleft : t.stage.callsLeft = 0) : ∃ s' phase, GoesOn s s' ∧ s'.stage = .inTurn k phase ∧
      phase ≠ .calling := by
  cases hstage : t.stage with
  | answered result =>
    have hloop := loop_turnMove hs (.answered ht hstage)
    exact ⟨_, .closing (.called result), goesOn_of_step isOwn_loop hloop rfl rfl rfl, rfl, by simp⟩
  | streaming feed relay =>
    have hloop := loop_turnMove hs (.opened ht hstage)
    exact ⟨_, .receiving false none, goesOn_of_step isOwn_loop hloop rfl rfl rfl, rfl, by simp⟩
  | _ => simp [Turn.Stage.callsLeft, hstage] at hleft

theorem receive_goesOn {shown : Bool} {failure : Option Error} {feed : Feed} {relay : Relay}
    {i : Increment} {sink : Channel Increment} (hs : s.stage = .inTurn k (.receiving shown failure))
    (ht : s.service.turns[k]? = some t) (hfeed : t.stage = .streaming feed relay)
    (hr : relay.sink.receive = .item i sink) :
    ∃ s' shown' failure', GoesOn s s' ∧ s'.stage = .inTurn k (.receiving shown' failure') ∧
      s'.service.turns[k]? = some { t with stage := .streaming feed { relay with sink } } := by
  obtain ⟨shown', failure', events, he⟩ :=
    receive_eq { s with service := s.service.updateSink k fun _ => sink } k shown failure i
  have hloop := loop_turnMove hs (.receive ht hfeed hr)
  rw [he] at hloop
  refine ⟨_, shown', failure', goesOn_of_step isOwn_loop hloop rfl rfl
    (map_cancelled_updateSink ..), rfl, ?_⟩
  simp [Service.updateSink, update, ht, hfeed]

theorem Released.concludes (h : s.Released) (hstage : s.stage = .inTurn k (.closing ending)) :
    ∃ s', GoesOn s s' ∧ s'.stage = .awaiting := by
  have hconclude {s : Session} (hstage : s.stage = .inTurn k (.closing ending))
      (hended : ∀ i ∈ s.indicator, i.hasEnded = true) :
      ∃ s', GoesOn s s' ∧ s'.stage = .awaiting :=
    ⟨_, goesOn_of_step isOwn_loop (loop_turnMove hstage (.conclude hended)) rfl rfl rfl, rfl⟩
  cases hi : s.indicator with
  | none => exact hconclude hstage (by simp [hi])
  | some i =>
    by_cases hended : i.hasEnded = true
    · exact hconclude hstage (by simp [hi, hended])
    · obtain ⟨i', drawn, hstep, hended'⟩ := ends_of_released (h k ending hstage i hi)
        (by simpa using hended) s.service.now s.turnIsCancelled
      have hgoes : GoesOn s ({ s with indicator := some i' }.draw drawn) := by
        refine goesOn_of_step (m := .indicator) ⟨by simp, by simp⟩ ?_ rfl rfl rfl
        simp [Session.step, indicatorStep, hi, hstep]
      obtain ⟨u, hgoes', hawaiting⟩ := hconclude (s := { s with indicator := some i' }.draw drawn)
        hstage (by simpa [draw] using hended')
      exact ⟨u, hgoes.trans hgoes', hawaiting⟩

/-- Sessions with a property keep it when they go on, and a turn gets on in them: its call can
always take its next step, and so can its stream when there is nothing to receive, with less left to
do. -/
structure GetsOn (P : Session → Prop) (k : Nat) (rank : Feed → Relay → Nat) : Prop where
  keeps : ∀ {s s'}, P s → GoesOn s s' → P s'
  released : ∀ {s}, P s → s.Released
  calls : ∀ {s}, P s → s.stage = .inTurn k .calling → ∃ t, s.service.turns[k]? = some t ∧
    (t.stage.callsLeft ≠ 0 → ∃ due, ∀ now, due ≤ now → (callStep { s.service with now } t).isSome)
  streams : ∀ {s shown failure}, P s → s.stage = .inTurn k (.receiving shown failure) →
    ∃ t feed relay, s.service.turns[k]? = some t ∧ t.stage = .streaming feed relay ∧
      (relay.sink.receive = .empty → ∃ part due, ∀ now, due ≤ now → ∃ feed' relay' v,
        Service.turnStep { s.service with now } t part =
          some ({ t with stage := .streaming feed' relay' }, v) ∧
        rank feed' relay' < rank feed relay)
  receives : ∀ {feed relay i sink}, relay.sink.receive = .item i sink →
    rank feed { relay with sink } < rank feed relay

variable {P : Session → Prop} {rank : Feed → Relay → Nat}

theorem GetsOn.call_ends {c : Nat} (h : GetsOn P k rank) (hP : P s)
    (hs : s.stage = .inTurn k .calling) (ht : s.service.turns[k]? = some t)
    (hn : t.stage.callsLeft = c) :
    ∃ s' phase, GoesOn s s' ∧ s'.stage = .inTurn k phase ∧ phase ≠ .calling := by
  -- on the steps that the call has left; waiting takes none of them
  induction c using Nat.strongRecOn generalizing s t with
  | _ c ih =>
    by_cases hleft : t.stage.callsLeft = 0
    · exact called_goesOn hs ht hleft
    · obtain ⟨_, ht', hcall⟩ := h.calls hP hs
      obtain rfl := Option.some.inj (ht.symm.trans ht')
      obtain ⟨due, hcall⟩ := hcall hleft
      obtain ⟨s', t', hgoes, hstage', ht', hlt⟩ := exists_part (p := .call)
        (Q := fun t' => t'.stage.callsLeft < c) ht fun now hdue => by
          obtain ⟨⟨t', v⟩, hstep⟩ := Option.isSome_iff_exists.mp (hcall now hdue)
          exact ⟨t', v, hstep, hn ▸ (call_move hstep).callsLeft_lt⟩
      obtain ⟨u, phase, hgoes', hphase⟩ := ih _ hlt (h.keeps hP hgoes) (hstage'.trans hs) ht' rfl
      exact ⟨u, phase, hgoes.trans hgoes', hphase⟩

theorem GetsOn.stream_ends {c : Nat} {shown : Bool} {failure : Option Error} {feed : Feed}
    {relay : Relay} (h : GetsOn P k rank) (hP : P s)
    (hs : s.stage = .inTurn k (.receiving shown failure)) (ht : s.service.turns[k]? = some t)
    (hfeed : t.stage = .streaming feed relay) (hn : rank feed relay = c) :
    ∃ s' ending, GoesOn s s' ∧ s'.stage = .inTurn k (.closing ending) := by
  -- on what is left to do; the feed and the relay are moved when there is nothing to receive
  induction c using Nat.strongRecOn generalizing s t shown failure feed relay with
  | _ c ih =>
    cases hr : relay.sink.receive with
    | item i sink =>
      obtain ⟨s', shown', failure', hgoes, hstage', ht'⟩ := receive_goesOn hs ht hfeed hr
      obtain ⟨u, ending, hgoes', hclosing⟩ :=
        ih _ (hn ▸ h.receives hr) (h.keeps hP hgoes) hstage' ht' rfl rfl
      exact ⟨u, ending, hgoes.trans hgoes', hclosing⟩
    | closed =>
      have hloop := loop_turnMove hs (.seeEnd ht hfeed hr)
      exact ⟨_, .streamed shown failure, goesOn_of_step isOwn_loop hloop rfl rfl rfl, rfl⟩
    | empty =>
      obtain ⟨_, _, _, ht', hfeed', hpart⟩ := h.streams hP hs
      obtain rfl := Option.some.inj (ht.symm.trans ht')
      obtain ⟨rfl, rfl⟩ := Turn.Stage.streaming.inj (hfeed.symm.trans hfeed')
      obtain ⟨part, due, hpart⟩ := hpart hr
      obtain ⟨s', t', hgoes, hstage', ht', feed', relay', hfeed', hlt⟩ := exists_part (p := part)
        (Q := fun t' => ∃ feed' relay', t'.stage = .streaming feed' relay' ∧ rank feed' relay' < c)
        ht fun now hdue => by
          obtain ⟨feed', relay', v, hstep, hlt⟩ := hpart now hdue
          exact ⟨_, v, hstep, feed', relay', rfl, hn ▸ hlt⟩
      obtain ⟨u, ending, hgoes', hclosing⟩ :=
        ih _ hlt (h.keeps hP hgoes) (hstage'.trans hs) ht' hfeed' rfl
      exact ⟨u, ending, hgoes.trans hgoes', hclosing⟩

theorem GetsOn.turn_ends (h : GetsOn P k rank) (hP : P s) (hs : s.stage = .inTurn k phase) :
    ∃ s', GoesOn s s' ∧ s'.stage = .awaiting := by
  have hreceiving {s : Session} {shown : Bool} {failure : Option Error} (hP : P s)
      (hs : s.stage = .inTurn k (.receiving shown failure)) :
      ∃ s', GoesOn s s' ∧ s'.stage = .awaiting := by
    obtain ⟨t, feed, relay, ht, hfeed, -⟩ := h.streams hP hs
    obtain ⟨s', ending, hgoes, hstage'⟩ := h.stream_ends hP hs ht hfeed rfl
    obtain ⟨u, hgoes', hawaiting⟩ := (h.released (h.keeps hP hgoes)).concludes hstage'
    exact ⟨u, hgoes.trans hgoes', hawaiting⟩
  cases phase with
  | calling =>
    obtain ⟨t, ht, -⟩ := h.calls hP hs
    obtain ⟨s', phase, hgoes, hstage', hphase⟩ := h.call_ends hP hs ht rfl
    have hP' := h.keeps hP hgoes
    obtain ⟨u, hgoes', hawaiting⟩ : ∃ u, GoesOn s' u ∧ u.stage = .awaiting := by
      cases phase with
      | calling => exact absurd rfl hphase
      | receiving => exact hreceiving hP' hstage'
      | closing => exact (h.released hP').concludes hstage'
    exact ⟨u, hgoes.trans hgoes', hawaiting⟩
  | receiving => exact hreceiving hP hs
  | closing => exact (h.released hP).concludes hs

def AllLeave (n : Nat) (turns : List Turn) : Prop :=
  ∀ (i : Nat) (t : Turn), n ≤ i → turns[i]? = some t → t.Leaves

theorem AllLeave.of_core {turns turns' : List Turn} (h : AllLeave n turns)
    (hc : turns'.map Turn.core = turns.map Turn.core) : AllLeave n turns' := by
  intro i t' hi ht'
  obtain ⟨t, ht, he⟩ := getElem?_of_core hc ht'
  obtain ⟨-, hs⟩ := Prod.mk.inj he
  rw [Turn.Leaves, hs]
  exact h i t hi ht

theorem AllLeave.took {reading : Except Error Reading} (h : AllLeave n s.service.turns)
    (ht : Took s reading s') : AllLeave n s'.service.turns := by
  cases ht with
  | «over» => exact h
  | turn =>
    intro i t hi ht
    simp only [beginTurn, ask, List.getElem?_append] at ht
    split at ht
    · exact h i t hi ht
    · obtain rfl := List.mem_singleton.mp (List.mem_of_getElem? ht)
      rintro _ _ _ ⟨⟩
  | settle _ _ hsettles => exact hsettles.turns_eq ▸ h

theorem AllLeave.turn (h : AllLeave n s.service.turns) (hm : TurnMove s k phase s') :
    AllLeave n s'.service.turns := by
  cases hm with
  | @receive t feed relay i sink shown failure ht hs hr =>
    obtain ⟨shown', failure', events, he⟩ := receive_eq
      { s with service := s.service.updateSink k fun _ => sink } k shown failure i
    rw [he]
    intro j t' hj ht'
    by_cases hk : k = j
    · subst hk
      obtain ⟨-, hsink⟩ := Channel.receive_eq_item_iff.mp hr
      obtain rfl : { t with stage := .streaming feed { relay with sink } } = t' := by
        simpa [updateSink, update, ht, hs] using ht'
      rintro _ _ o ⟨⟩ ho
      rw [hsink]
      exact h k t hj ht feed relay o hs ho
    · simp only [updateSink, update, List.getElem?_modify, if_neg hk] at ht'
      exact h j t' hj (by simpa using ht')
  | _ => exact h

theorem AllLeave.does (h : AllLeave n s.service.turns) (hd : Does s m s') :
    AllLeave n s'.service.turns := by
  cases hd with
  | leave | indicator => exact h
  | read hs =>
    rcases readLine_took s with ⟨-, he⟩ | ⟨e, rest, s₁, -, hbeside, htook⟩
    · exact he ▸ h
    · have hprompted : AllLeave n (s.prompted rest).service.turns := h
      exact (hprompted.of_core hbeside.core_eq).took htook
  | turn _ hmove => exact h.turn hmove
  | part hv =>
    obtain ⟨t, t', v, ht, hstep, rfl⟩ := step_eq_some_iff.mp hv
    intro i u hi hu
    rcases getElem?_set_cases hu with ⟨rfl, rfl⟩ | ⟨hu, -⟩
    · exact (turnStep_move hstep).leaves (h _ t hi ht)
    · exact h i u hi hu
  | beside _ _ hbeside => exact h.of_core hbeside.core_eq

/-- The turns and the indicator of a session are such that a turn can be brought to its end. -/
structure InHand (n : Nat) (s : Session) : Prop where
  owns : Owns n s.service.turns s.stage
  leave : AllLeave n s.service.turns
  released : s.Released

theorem InHand.does (h : InHand n s) (hd : Does s m s') : InHand n s' :=
  ⟨h.owns.does hd, h.leave.does hd, h.released.does hd⟩

theorem InHand.beside (h : InHand n s) (hb : Beside s s') : InHand n s' :=
  ⟨by rw [hb.stage_eq]; exact h.owns.of_core hb.core_eq, h.leave.of_core hb.core_eq,
    h.released.beside hb⟩

theorem InHand.goesOn (h : InHand n s) (hg : GoesOn s s') : InHand n s' :=
  hg.leads.keeps (fun _ hu hm => hu.does (does_of_step hm)) h

theorem inHand_new {service : Service} {settings : Settings} {input : List Entry}
    {cancelled : Bool} (h : Session.new service settings input cancelled = .ok s) :
    InHand service.turns.length s := by
  have howns := owns_new h
  obtain ⟨_, _, -, rfl⟩ := new_eq_ok_iff.mp h
  refine ⟨howns, fun i t hi ht => ?_, released_of_stage (by simp)⟩
  obtain ⟨hlt, -⟩ := List.getElem?_eq_some_iff.mp ht
  exact absurd hlt (Nat.not_lt.mpr hi)

def TurnCancelled (s : Session) (k : Nat) : Prop :=
  (s.service.turns.map Turn.cancelled)[k]? = some true

theorem TurnCancelled.goesOn (h : s.TurnCancelled k) (hg : GoesOn s s') : s'.TurnCancelled k := by
  rw [TurnCancelled, hg.tokens_eq]
  exact h

theorem TurnCancelled.here (h : s.TurnCancelled k) (ht : s.service.turns[k]? = some t) :
    t.cancelled = true := by
  simpa [TurnCancelled, ht] using h

/-- A turn that was cancelled gets on, whatever its feed does. -/
theorem getsOn_cancelled (n k : Nat) :
    GetsOn (fun s => InHand n s ∧ s.TurnCancelled k) k fun _ relay => relay.toDo where
  keeps h hg := ⟨h.1.goesOn hg, h.2.goesOn hg⟩
  released h := h.1.released
  calls {s} h hs := by
    obtain ⟨hinHand, hc⟩ := h
    have howns := hinHand.owns
    rw [hs] at howns
    obtain ⟨-, -, -, t, ht, -⟩ := howns
    exact ⟨t, ht, callStep_isSome_of_cancelled s.service (hc.here ht)⟩
  streams {s shown failure} h hs := by
    obtain ⟨hinHand, hc⟩ := h
    have howns := hinHand.owns
    rw [hs] at howns
    obtain ⟨hown, -, -, t, ht, ⟨feed, relay, hfeed⟩, -⟩ := howns
    refine ⟨t, feed, relay, ht, hfeed, fun hr => ⟨.relay, 0, fun now _ => ?_⟩⟩
    obtain ⟨-, hsender⟩ := Channel.receive_eq_empty_iff.mp hr
    have hnot (o : Relay.Outcome) : relay.stage ≠ .ended o := by
      intro ho
      simp [hinHand.leave k t hown ht feed relay o hfeed ho] at hsender
    obtain ⟨⟨relay', a'⟩, hstep⟩ := Option.isSome_iff_exists.mp
      (relay.step_isSome_of_cancelled s.service.archive hnot)
    refine ⟨feed, relay', { s.service with now, archive := a' }, ?_,
      (Relay.step_move hstep).toDo_lt⟩
    simp [Service.turnStep, hfeed, hc.here ht, hstep]
  receives := Relay.toDo_receive_lt

end Session

end Parley
