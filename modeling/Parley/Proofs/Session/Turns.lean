import Parley.Proofs.Session.Step
import Parley.Proofs.Turn.Course

/-! # The turns of a session

While a session is about to read a line, no turn can write to its transcript. While it is in a turn,
no other turn can, and the turn has come as far as the session has: what is received of a stream, or
waited for, follows its course.
-/

namespace Parley

deriving instance DecidableEq for
  Performance, Turn.Stage, Session.Ending, Session.Phase, Session.Stage

namespace Turn.Stage

def IsOver : Turn.Stage → Prop
  | .answered _ => True
  | .streaming _ relay => relay.stage.isOver = true
  | _ => False

end Turn.Stage

namespace Session

/-- How far the turn must have come in a phase. -/
def Phase.Suits : Phase → Turn.Stage → Prop
  | .calling, _ => True
  | .receiving .., stage => ∃ feed relay, stage = .streaming feed relay
  | .closing _, stage => stage.IsOver

open Service

/-- No turn is under way, and these lines became turns. -/
structure AtRest (id : SessionId) (lines : List String) (said : List (String × Bool))
    (s : Service) : Prop where
  harmless : ∀ (i : Nat) (t : Turn), s.turns[i]? = some t → t.Harmless id
  lines_eq : said.map (·.1) = lines
  inBlocks : s.archive.InBlocks id (kept said) false

/-- The last of these lines is a turn under way. -/
structure UnderWay (id : SessionId) (lines : List String) (said : List (String × Bool))
    (k : Nat) (phase : Phase) (t : Turn) (s : Service) : Prop where
  others : ∀ (i : Nat) (u : Turn), s.turns[i]? = some u → i ≠ k → u.Harmless id
  last : k + 1 = s.turns.length
  here : s.turns[k]? = some t
  session_eq : t.session = id
  suits : phase.Suits t.stage
  course : Course id s.archive said lines t.stage

/-- How the turns and the transcript stand at every stage of a session. -/
def Stands (id : SessionId) (lines : List String) (said : List (String × Bool)) (s : Service) :
    Stage → Prop
  | .awaiting | .over _ => AtRest id lines said s
  | .inTurn k phase => ∃ t, UnderWay id lines said k phase t s

variable {id : SessionId} {lines : List String} {said : List (String × Bool)} {s s' : Session}
  {v u : Service} {k i : Nat} {phase : Phase} {t : Turn} {p : Turn.Part}

theorem harmless_of_core {t t' : Turn} (h : t.Harmless id) (hc : t'.core = t.core) :
    t'.Harmless id := by
  obtain ⟨hs, ht⟩ := Prod.mk.inj hc
  rw [Turn.Harmless, hs, ht]
  exact h

theorem getElem?_of_core {turns turns' : List Turn}
    (h : turns'.map Turn.core = turns.map Turn.core) {i : Nat} {t' : Turn}
    (ht : turns'[i]? = some t') : ∃ t, turns[i]? = some t ∧ t'.core = t.core := by
  have hi : (turns'.map Turn.core)[i]? = some t'.core := by simp [ht]
  rw [h, List.getElem?_map, Option.map_eq_some_iff] at hi
  obtain ⟨t, ht, hc⟩ := hi
  exact ⟨t, ht, hc.symm⟩

theorem AtRest.aside (h : AtRest id lines said s.service) (ha : Aside id s s') :
    AtRest id lines said s'.service where
  harmless i t ht := by
    obtain ⟨t, ht, hc⟩ := getElem?_of_core ha.turns_eq ht
    exact harmless_of_core (h.harmless i t ht) hc
  lines_eq := h.lines_eq
  inBlocks := h.inBlocks.of_find?_eq ha.find?_eq

theorem UnderWay.aside (h : UnderWay id lines said k phase t s.service) (ha : Aside id s s') :
    ∃ t', UnderWay id lines said k phase t' s'.service := by
  obtain ⟨t', ht', hc⟩ := getElem?_of_core ha.turns_eq.symm h.here
  obtain ⟨hs, hstage⟩ := Prod.mk.inj hc
  refine ⟨t', ?_, ?_, ht', hs ▸ h.session_eq, hstage ▸ h.suits, ?_⟩
  · intro i u hu hi
    obtain ⟨u, hu, hc⟩ := getElem?_of_core ha.turns_eq hu
    exact harmless_of_core (h.others i u hu hi) hc
  · have hlength := congrArg List.length ha.turns_eq
    simp only [List.length_map] at hlength
    exact h.last.trans hlength.symm
  · rw [← hstage]
    exact h.course.of_find?_eq ha.find?_eq

theorem Stands.aside (h : Stands id lines said s.service s.stage) (ha : Aside id s s') :
    Stands id lines said s'.service s'.stage := by
  rw [ha.stage_eq]
  cases hs : s.stage with
  | inTurn =>
    rw [hs] at h
    obtain ⟨t, h⟩ := h
    exact h.aside ha
  | _ =>
    rw [hs] at h
    exact AtRest.aside h ha

theorem hearing_of_harmless (h : t.Harmless id) (ht : t.session = id) : v.hearing t = [] := by
  rw [Turn.Harmless] at h
  rw [hearing]
  split
  · next hs =>
    rw [hs] at h
    exact absurd ht h
  · rfl

theorem harmless_step (hu : v.step i p = some u) (ht : v.turns[i]? = some t)
    (h : t.Harmless id) :
    (∃ t', t'.Harmless id ∧ u.turns = v.turns.set i t') ∧
      u.archive.find? id = v.archive.find? id := by
  obtain ⟨t₁, t', v', ht₁, hstep, rfl⟩ := step_eq_some_iff.mp hu
  obtain rfl := Option.some.inj (ht.symm.trans ht₁)
  obtain ⟨hharmless, hfind⟩ := (turnStep_move hstep).harmless h
  exact ⟨⟨t', hharmless, rfl⟩, hfind⟩

theorem getElem?_set_cases {turns : List Turn} {t' u : Turn} {j : Nat}
    (hu : (turns.set i t')[j]? = some u) : u = t' ∧ j = i ∨ turns[j]? = some u ∧ j ≠ i := by
  rw [List.getElem?_set] at hu
  split at hu
  · next hi =>
    split at hu
    · exact .inl ⟨(Option.some.inj hu).symm, hi.symm⟩
    · cases hu
  · next hi => exact .inr ⟨hu, Ne.symm hi⟩

theorem getElem?_concat_cases {turns : List Turn} {t u : Turn} {j : Nat}
    (hu : (turns ++ [t])[j]? = some u) : turns[j]? = some u ∨ j = turns.length ∧ u = t := by
  rw [List.getElem?_append] at hu
  split at hu
  · exact .inl hu
  · rw [List.getElem?_singleton] at hu
    split at hu
    · exact .inr ⟨by omega, (Option.some.inj hu).symm⟩
    · cases hu

theorem AtRest.part (h : AtRest id lines said v) (hu : v.step i p = some u) :
    AtRest id lines said u := by
  obtain ⟨t, _, _, ht, -, -⟩ := step_eq_some_iff.mp hu
  obtain ⟨⟨t', ht', hturns⟩, hfind⟩ := harmless_step hu ht (h.harmless i t ht)
  refine ⟨fun j w hw => ?_, h.lines_eq, h.inBlocks.of_find?_eq hfind⟩
  rw [hturns] at hw
  rcases getElem?_set_cases hw with ⟨rfl, -⟩ | ⟨hw, -⟩
  · exact ht'
  · exact h.harmless j w hw

theorem UnderWay.other (h : UnderWay id lines said k phase t v) (hu : v.step i p = some u)
    (hi : i ≠ k) : UnderWay id lines said k phase t u := by
  obtain ⟨t₁, _, _, ht₁, -, -⟩ := step_eq_some_iff.mp hu
  obtain ⟨⟨t', ht', hturns⟩, hfind⟩ := harmless_step hu ht₁ (h.others i t₁ ht₁ hi)
  refine ⟨fun j w hw hj => ?_, ?_, ?_, h.session_eq, h.suits, h.course.of_find?_eq hfind⟩
  · rw [hturns] at hw
    rcases getElem?_set_cases hw with ⟨rfl, -⟩ | ⟨hw, -⟩
    · exact ht'
    · exact h.others j w hw hj
  · simpa [hturns] using h.last
  · rw [hturns, List.getElem?_set_ne hi]
    exact h.here

theorem Phase.Suits.move {t' : Turn} {v' : Service} (hm : Service.Move v t t' v')
    (h : phase.Suits t.stage) : phase.Suits t'.stage := by
  cases phase with
  | calling => trivial
  | receiving =>
    obtain ⟨feed, relay, hs⟩ := h
    cases hm with
    | call hm => cases hm <;> simp_all
    | feed | relay => exact ⟨_, _, rfl⟩
  | closing =>
    -- only the relay of a turn that is over can still move, and it only lets go of its channels
    cases hm with
    | call hm => cases hm <;> simp_all [Suits, Turn.Stage.IsOver]
    | feed hs =>
      rw [Suits, hs] at h
      exact h
    | relay hs hr =>
      rw [Suits, hs] at h
      obtain ⟨-, o, -, rfl⟩ := hr.of_isOver h
      exact rfl

theorem UnderWay.own (h : UnderWay id lines said k phase t v) (hu : v.step k p = some u) :
    ∃ t', UnderWay id lines (said ++ v.hearing t) k phase t' u := by
  obtain ⟨t₁, t', v', ht₁, hstep, rfl⟩ := step_eq_some_iff.mp hu
  obtain rfl := Option.some.inj (h.here.symm.trans ht₁)
  obtain ⟨hk, -⟩ := List.getElem?_eq_some_iff.mp h.here
  have hm := turnStep_move hstep
  refine ⟨t', fun i w hw hi => ?_, ?_, List.getElem?_set_self hk, hm.session_eq.trans h.session_eq,
    h.suits.move hm, hm.course h.session_eq h.course⟩
  · rcases getElem?_set_cases hw with ⟨-, rfl⟩ | ⟨hw, -⟩
    · exact absurd rfl hi
    · exact h.others i w hw hi
  · simpa using h.last

theorem AtRest.begin (h : AtRest id lines said s.service) (hid : s.id = id) (text : String) :
    ∃ t, UnderWay id (lines ++ [text]) said s.service.turns.length .calling t
      (s.beginTurn text).service := by
  obtain ⟨t, hturns, hsession, hstage⟩ : ∃ t : Turn,
      (s.beginTurn text).service.turns = s.service.turns ++ [t] ∧ t.session = s.id ∧
        t.stage = .asked text := ⟨_, rfl, rfl, rfl⟩
  refine ⟨t, fun i u hu hi => ?_, by simp [hturns], by simp [hturns], hsession.trans hid, trivial,
    ?_⟩
  · rcases getElem?_concat_cases (hturns ▸ hu) with hu | ⟨rfl, -⟩
    · exact h.harmless i u hu
    · exact absurd rfl hi
  · rw [hstage]
    exact ⟨by rw [h.lines_eq], h.inBlocks⟩

theorem AtRest.take (h : AtRest id lines said s.service) (hs : s.stage = .awaiting)
    (hid : s.id = id) (reading : Except Error Reading) :
    Stands id (lines ++ (turnLine? reading).toList) said (s.take reading).service
        (s.take reading).stage ∧
      (s.take reading).id = s.id ∧ (s.take reading).input = s.input := by
  rcases take_cases id s reading with ⟨hn, ⟨result, ht⟩ | ha⟩ | ⟨text, hn, ht⟩
  · rw [hn, ht, Option.toList_none, List.append_nil]
    exact ⟨h, rfl, rfl⟩
  · rw [hn, ha.stage_eq, hs, Option.toList_none, List.append_nil]
    exact ⟨h.aside ha, ha.id_eq, ha.input_eq⟩
  · rw [hn, ht, Option.toList_some]
    exact ⟨h.begin hid text, rfl, rfl⟩

theorem Course.of_isOver {a : Archive} {stage : Turn.Stage} (h : Course id a said lines stage)
    (ho : stage.IsOver) : said.map (·.1) = lines ∧ a.InBlocks id (kept said) false := by
  cases stage with
  | answered => exact h
  | streaming => exact ⟨h.1, h.2.1.close⟩
  | _ => exact ho.elim

theorem harmless_of_isOver (h : t.stage.IsOver) : t.Harmless id := by
  rw [Turn.Harmless]
  cases hs : t.stage with
  | answered => trivial
  | streaming =>
    rw [hs] at h
    exact .inr h
  | _ =>
    rw [hs] at h
    exact h.elim

theorem UnderWay.atRest (h : UnderWay id lines said k phase t v) (ho : t.stage.IsOver) :
    AtRest id lines said v := by
  obtain ⟨hlines, hblocks⟩ := Course.of_isOver h.course ho
  refine ⟨fun i u hu => ?_, hlines, hblocks⟩
  by_cases hi : i = k
  · rw [hi, h.here] at hu
    exact Option.some.inj hu ▸ harmless_of_isOver ho
  · exact h.others i u hu hi

theorem UnderWay.enter {phase' : Phase} (h : UnderWay id lines said k phase t v)
    (hs : phase'.Suits t.stage) : UnderWay id lines said k phase' t v :=
  ⟨h.others, h.last, h.here, h.session_eq, hs, h.course⟩

theorem UnderWay.updateSink {feed : Feed} {relay : Relay} {i : Increment} {sink : Channel Increment}
    (h : UnderWay id lines said k phase t v) (hs : t.stage = .streaming feed relay)
    (hr : relay.sink.receive = .item i sink) (shown : Bool) (failure : Option Error) :
    ∃ t', UnderWay id lines said k (.receiving shown failure) t'
      (v.updateSink k fun _ => sink) := by
  have hcourse := h.course
  rw [hs] at hcourse
  obtain ⟨hlines, hblocks, hid, hlistened⟩ := hcourse
  obtain ⟨-, hsink⟩ := Channel.receive_eq_item_iff.mp hr
  have hhere : (v.updateSink k fun _ => sink).turns[k]? =
      some { t with stage := .streaming feed { relay with sink } } := by
    simp [Service.updateSink, update, h.here, hs]
  refine ⟨_, fun j u hu hj => ?_, ?_, hhere, h.session_eq, ⟨_, _, rfl⟩,
    hlines, hblocks, hid, ?_⟩
  · simp only [Service.updateSink, update, List.getElem?_modify, if_neg (Ne.symm hj)] at hu
    exact h.others j u (by simpa using hu) hj
  · simpa [Service.updateSink, update] using h.last
  · rw [hsink]
    exact ⟨hlistened.receiverOpen, hlistened.readerGone, hlistened.closed⟩

theorem UnderWay.turn (h : UnderWay id lines said k phase t s.service)
    (hmove : TurnMove s k phase s') :
    Stands id lines said s'.service s'.stage ∧ s'.id = s.id ∧ s'.input = s.input := by
  cases hmove with
  | answered ht hs =>
    obtain rfl := Option.some.inj (h.here.symm.trans ht)
    have ho : t.stage.IsOver := by
      rw [hs]
      trivial
    exact ⟨⟨t, h.enter ho⟩, rfl, rfl⟩
  | opened ht hs =>
    obtain rfl := Option.some.inj (h.here.symm.trans ht)
    exact ⟨⟨t, h.enter ⟨_, _, hs⟩⟩, rfl, rfl⟩
  | @receive _ _ _ i sink shown failure ht hs hr =>
    obtain rfl := Option.some.inj (h.here.symm.trans ht)
    obtain ⟨shown', failure', events, he⟩ := receive_eq
      { s with service := s.service.updateSink k fun _ => sink } k shown failure i
    rw [he]
    exact ⟨h.updateSink hs hr shown' failure', rfl, rfl⟩
  | seeEnd ht hs hr =>
    obtain rfl := Option.some.inj (h.here.symm.trans ht)
    have hcourse := h.course
    rw [hs] at hcourse
    -- the session has not left, so the channel is closed because the relay is over
    have ho : t.stage.IsOver := by
      rw [hs]
      exact hcourse.2.2.2.closed (Channel.receive_eq_closed_iff.mp hr).2
    exact ⟨⟨t, h.enter ho⟩, rfl, rfl⟩
  | conclude => exact ⟨h.atRest h.suits, rfl, rfl⟩

end Session

end Parley
