import Parley.Proofs.Session.Onward
import Parley.Proofs.Session.Reading
import Parley.Proofs.Session.Shape
import Parley.Proofs.Session.Story

/-! # Whole turns

A line that is no command begins a story, every move goes on with it, and the session ends it when
the indicator has ended. No other turn ever takes its place, because turns are numbered on.
-/

namespace Parley

namespace Session

open Service

/-- A session is opened with a service, beside turns that are no turns of its own, and with lines
during which nobody deletes its transcript. -/
structure Opens (service : Service) (input : List Entry) (s₀ : Session) : Prop where
  new : ∃ settings cancelled, Session.new service settings input cancelled = .ok s₀
  others : ∀ t ∈ service.turns, t.Harmless s₀.id
  kept : ∀ x ∈ input, .deleteSession s₀.id ∉ x.interludes

/-- A turn of a session, from the line that begins it in `b` to its last moment in `e`, before it is
concluded. -/
structure WholeTurn (s₀ b : Session) (k : Nat) (ending : Ending) (e s' : Session) : Prop where
  begins : ∃ s, s₀.Leads s ∧ s.stage = .awaiting ∧ s.step .loop = some b
  first : b.stage = .inTurn k .calling
  leads : b.Leads e
  last : e.stage = .inTurn k (.closing ending)
  concluded : e.step .loop = some s'

variable {P : Performance → Prop} {Q : Turn → Service → Prop} {service : Service} {id : SessionId}
  {input : List Entry} {s₀ b e s s' u : Session} {k : Nat} {text : String} {ending : Ending}
  {m : Move}

theorem Opens.service_eq (h : Opens service input s₀) :
    ∃ archive t, service.archive.create = (.ok t, archive) ∧ s₀.id = t.id ∧
      s₀.service = { service with archive } := by
  obtain ⟨settings, cancelled, hnew⟩ := h.new
  obtain ⟨t, archive, hc, rfl⟩ := new_eq_ok_iff.mp hnew
  exact ⟨archive, t, hc, rfl, rfl⟩

theorem Opens.unfailing (h : Opens service input s₀) (hs : s₀.Leads s)
    (ha : service.archive.Unfailing) : s.service.archive.Unfailing := by
  obtain ⟨archive, t, hc, -, hservice⟩ := h.service_eq
  have hfaults := hs.onward.service.faults
  rw [hservice] at hfaults
  exact ha.of_faults_eq (hfaults.trans (Archive.faults_of_create hc))

theorem Opens.orderly (h : Opens service input s₀) (hs : s₀.Leads s) :
    ∃ said, Orderly s₀.id input { session := s, said } := by
  obtain ⟨settings, cancelled, hnew⟩ := h.new
  refine hs.keeps (P := fun u => ∃ said, Orderly s₀.id input { session := u, said }) ?_
    ⟨[], orderly_new hnew h.others h.kept⟩
  rintro u u' m ⟨said, hu⟩ hm
  exact ⟨said ++ u.heard m, hu.step m (by simp [Journal.step, hm])⟩

theorem story_beginTurn {lines : List String} {said : List (String × Bool)}
    (h : AtRest id lines said s.service) (hid : s.id = id) (text : String) :
    ∃ t, Story P (s.beginTurn text) s.service.turns.length text .calling t [] [] false
      (s.beginTurn text) ∧ t.stage = .asked text ∧
      t.delivery = if s.streaming then .streaming else .blocking := by
  obtain ⟨t, hturns, hsession, hstage, hdelivery⟩ : ∃ t : Turn,
      (s.beginTurn text).service.turns = s.service.turns ++ [t] ∧ t.session = s.id ∧
        t.stage = .asked text ∧ t.delivery = if s.streaming then .streaming else .blocking :=
    ⟨_, rfl, rfl, rfl, rfl⟩
  have hhere : (s.beginTurn text).service.turns[s.service.turns.length]? = some t := by
    simp [hturns]
  have hothers : ∀ (i : Nat) (u : Turn), (s.beginTurn text).service.turns[i]? = some u →
      i ≠ s.service.turns.length → u.Harmless t.session := by
    intro i u hu hi
    rw [hsession, hid]
    rcases getElem?_concat_cases (hturns ▸ hu) with hu | ⟨rfl, -⟩
    · exact h.harmless i u hu
    · exact absurd rfl hi
  have hfollows := follows_asked hhere hstage hothers
  rw [hsession] at hfollows
  refine ⟨t, ⟨rfl, rfl, rfl, rfl, rfl, hfollows, ?_, [], (List.append_nil _).symm, rfl, rfl, rfl⟩,
    hstage, hdelivery⟩
  rw [Plays, hstage]
  exact ⟨rfl, rfl⟩

theorem readLine_inTurn {said : List (String × Bool)} {phase : Phase}
    (h : Orderly id input { session := s, said }) (hs : s.stage = .awaiting)
    (hb : s.readLine.stage = .inTurn k phase) :
    ∃ x rest text s₁ lines, s.input = x :: rest ∧ turnLine? x.reading = some text ∧
      s₁ = x.interludes.foldl interlude
        { s with input := rest, events := s.events ++ [Event.prompt s.prompt] } ∧
      AtRest id lines said s₁.service ∧ s₁.id = id ∧ s.readLine = s₁.beginTurn text ∧
      k = s₁.service.turns.length ∧ phase = .calling := by
  obtain ⟨hid, hspared, read, hread, hstands⟩ := h
  dsimp only at hid hspared hread hstands
  rw [hs] at hstands
  have hrest : AtRest id (turnLines read) said s.service := hstands
  rw [readLine] at hb ⊢
  split at hb
  · cases hb
  · next x rest hi =>
    let s₀ : Session := { s with input := rest, events := s.events ++ [Event.prompt s.prompt] }
    have ha : Aside id s₀ (x.interludes.foldl interlude s₀) :=
      aside_interludes (hspared x (hi ▸ List.mem_cons_self)) s₀
    have hrest' : AtRest id (turnLines read) said (x.interludes.foldl interlude s₀).service :=
      AtRest.aside (s := s₀) hrest ha
    have hstage : (x.interludes.foldl interlude s₀).stage = .awaiting := ha.stage_eq.trans hs
    rcases take_cases id (x.interludes.foldl interlude s₀) x.reading with
      ⟨-, ⟨result, ht⟩ | hquiet⟩ | ⟨text, hn, ht⟩
    · rw [ht] at hb
      cases hb
    · rw [hquiet.stage_eq, hstage] at hb
      cases hb
    · rw [ht] at hb
      obtain ⟨rfl, rfl⟩ := Stage.inTurn.inj hb
      exact ⟨x, rest, text, _, _, hi, hn, rfl, hrest', ha.id_eq.trans hid, ht, rfl, rfl⟩

/-- A turn that is left behind does not come again. -/
def Past (k : Nat) (s : Session) : Prop :=
  k < s.service.turns.length ∧ ∀ phase, s.stage ≠ .inTurn k phase

theorem TurnMove.stage_eq {phase : Phase} (h : TurnMove s k phase s') :
    s'.stage = .awaiting ∨ ∃ phase', s'.stage = .inTurn k phase' := by
  cases h with
  | answered | opened | seeEnd => exact .inr ⟨_, rfl⟩
  | @receive _ _ _ i sink shown failure =>
    obtain ⟨shown', failure', events, he⟩ := receive_eq
      { s with service := s.service.updateSink k fun _ => sink } k shown failure i
    rw [he]
    exact .inr ⟨_, rfl⟩
  | conclude => exact .inl rfl

theorem readLine_begins {phase : Phase} (hs : s.stage = .awaiting)
    (hb : s.readLine.stage = .inTurn k phase) :
    ∃ rest s₁ text, Beside (s.prompted rest) s₁ ∧ s.readLine = s₁.beginTurn text ∧
      k = s.service.turns.length ∧ phase = .calling := by
  rcases readLine_took s with ⟨-, he⟩ | ⟨e, rest, s₁, -, hbeside, htook⟩
  · rw [he] at hb
    cases hb
  · have hlength : s₁.service.turns.length = s.service.turns.length := by
      simpa [prompted] using congrArg List.length hbeside.bare_eq
    generalize s.readLine = s' at hb htook
    cases htook with
    | «over» => cases hb
    | @turn text =>
      obtain ⟨rfl, rfl⟩ := Stage.inTurn.inj hb
      exact ⟨rest, s₁, text, hbeside, rfl, hlength, rfl⟩
    | settle _ _ hsettles =>
      rw [hsettles.stage_eq, hbeside.stage_eq] at hb
      exact absurd (hs.symm.trans hb) (by simp)

theorem Past.step (h : Past k s) (hm : s.step m = some s') : Past k s' := by
  obtain ⟨hlt, hstage⟩ := h
  refine ⟨Nat.lt_of_lt_of_le hlt (onward_step hm).service.length_le, fun phase hs' => ?_⟩
  cases next_of_step hm with
  | leave => cases hs'
  | read hs =>
    obtain ⟨-, -, -, -, -, hk, -⟩ := readLine_begins hs hs'
    omega
  | @turn j phase' _ hs hmove =>
    rcases hmove.stage_eq with ha | ⟨phase'', hj⟩
    · rw [ha] at hs'
      cases hs'
    · obtain ⟨rfl, -⟩ := Stage.inTurn.inj (hj.symm.trans hs')
      exact hstage phase' hs
  | part => exact hstage phase hs'
  | quiet hq => exact hstage phase (hq.stage_eq.symm.trans hs')

/-- A turn is under way in the session that began it, or it is left behind. -/
def Along (P : Performance → Prop) (Q : Turn → Service → Prop) (b : Session) (k : Nat)
    (text : String) (s : Session) : Prop :=
  (∃ phase t added received sawEnd, Story P b k text phase t added received sawEnd s ∧
    Q t s.service) ∨ Past k s

theorem Along.step (h : Along P Q b k text s)
    (hgoes : ∀ {v t t' v'}, Goes k v t t' v' → Q t v → Q t' v')
    (hnext : P s.service.generator.next) (hm : s.step m = some s') : Along P Q b k text s' := by
  rcases h with ⟨phase, t, added, received, sawEnd, h, hQ⟩ | h
  · rcases h.step (fun _ _ => hnext) hm with
      ⟨phase', t', added', received', sawEnd', hg, h'⟩ | ⟨ending, -, rfl⟩
    · exact .inl ⟨phase', t', added', received', sawEnd', h', hgoes hg hQ⟩
    · obtain ⟨hk, -⟩ := List.getElem?_eq_some_iff.mp h.follows.here
      exact .inr ⟨hk, fun phase' hs' => by cases hs'⟩
  · exact .inr (h.step hm)

/-- What the generator can do that has some performances left. -/
def Scripted (script : List Performance) (p : Performance) : Prop :=
  p = Generator.encore ∨ p ∈ script

theorem scripted_next {g : Generator} {script : List Performance} (h : g.script <:+ script) :
    Scripted script g.next := by
  unfold Generator.next
  cases hs : g.script with
  | nil => exact .inl rfl
  | cons p rest =>
    rw [hs] at h
    exact .inr (h.subset List.mem_cons_self)

/-- A turn that is under way goes on, and does not come again when it is left behind. -/
theorem Along.leads (h : Along (Scripted service.generator.script) Q b k text s)
    (hgoes : ∀ {v t t' v'}, Goes k v t t' v' → Q t v → Q t' v')
    (hopens : Opens service input s₀) (hs : s₀.Leads s) (hleads : s.Leads u) :
    Along (Scripted service.generator.script) Q b k text u := by
  have hrun := hleads.keeps
    (P := fun u => s₀.Leads u ∧ Along (Scripted service.generator.script) Q b k text u)
    (fun {u u'} m hu hm => by
      obtain ⟨hleads, halong⟩ := hu
      obtain ⟨archive, -, -, -, hservice⟩ := hopens.service_eq
      have hscript := hleads.onward.service.script
      rw [hservice] at hscript
      exact ⟨hleads.step hm, halong.step hgoes (scripted_next hscript) hm⟩)
    ⟨hs, h⟩
  exact hrun.2

theorem WholeTurn.reads (h : WholeTurn s₀ b k ending e s') :
    ∃ s, s₀.Leads s ∧ s.stage = .awaiting ∧ s.step .loop = some b ∧ b = s.readLine := by
  obtain ⟨s, hs, hstage, hb⟩ := h.begins
  refine ⟨s, hs, hstage, hb, ?_⟩
  simp only [Session.step, loopStep, hstage] at hb
  split at hb
  · obtain rfl := Option.some.inj hb
    cases h.first
  · exact (Option.some.inj hb).symm

theorem WholeTurn.begin (h : WholeTurn s₀ b k ending e s') (hopens : Opens service input s₀) :
    ∃ text t, s₀.Leads b ∧ b.id = s₀.id ∧ (b.service.archive.find? s₀.id).isSome ∧
      (b.service.turns[k]?).map Turn.stage = some (.asked text) ∧
      Story (Scripted service.generator.script) b k text .calling t [] [] false b := by
  obtain ⟨s, hs, hstage, hb, rfl⟩ := h.reads
  obtain ⟨said, hord⟩ := hopens.orderly hs
  have hleads := hs.step hb
  have hfirst := h.first
  obtain ⟨x, rest, text, s₁, lines, -, -, -, hrest, hid, hread, rfl, -⟩ :=
    readLine_inTurn hord hstage hfirst
  obtain ⟨t, hstory, hasked, -⟩ :=
    story_beginTurn (P := Scripted service.generator.script) hrest hid text
  obtain ⟨tr, blocks, htr, -⟩ := hrest.inBlocks
  rw [← hread] at hstory
  refine ⟨text, t, hleads, hread ▸ hid, ?_, ?_, hstory⟩
  · rw [hread]
    exact Option.isSome_iff_exists.mpr ⟨tr, htr⟩
  · rw [hstory.follows.here, Option.map_some, hasked]

theorem WholeTurn.last_story (h : WholeTurn s₀ b k ending e s') (halong : Along P Q b k text e) :
    ∃ t added received sawEnd,
      Story P b k text (.closing ending) t added received sawEnd e ∧ Q t e.service := by
  rcases halong with ⟨phase, t, added, received, sawEnd, he, hQ⟩ | hpast
  · obtain ⟨-, rfl⟩ := Stage.inTurn.inj (he.stage_eq.symm.trans h.last)
    exact ⟨t, added, received, sawEnd, he, hQ⟩
  · exact absurd h.last (hpast.2 _)

theorem WholeTurn.concludes (h : WholeTurn s₀ b k ending e s') :
    TurnMove e k (.closing ending) s' := by
  have hconcluded := h.concluded
  simp only [Session.step, loopStep, h.last] at hconcluded
  exact turnStep_eq_some_iff.mp hconcluded

theorem WholeTurn.conclude_eq (h : WholeTurn s₀ b k ending e s') : s' = e.conclude k ending := by
  cases h.concludes
  rfl

/-- Every turn of a session has a story, from the line that begins it until it is concluded. -/
theorem WholeTurn.story (h : WholeTurn s₀ b k ending e s') (hopens : Opens service input s₀) :
    s₀.Leads b ∧ b.id = s₀.id ∧ (b.service.archive.find? s₀.id).isSome ∧
      ∃ text t added received sawEnd, (b.service.turns[k]?).map Turn.stage = some (.asked text) ∧
        Story (Scripted service.generator.script) b k text (.closing ending) t added received sawEnd
          e := by
  obtain ⟨text, t₀, hleads, hid, hknown, hasked, hstory⟩ := h.begin hopens
  have halong : Along (Scripted service.generator.script) (fun _ _ => True) b k text b :=
    .inl ⟨_, _, _, _, _, hstory, trivial⟩
  obtain ⟨t, added, received, sawEnd, he, -⟩ :=
    h.last_story (halong.leads (fun _ _ => trivial) hopens hleads h.leads)
  exact ⟨hleads, hid, hknown, text, t, added, received, sawEnd, hasked, he⟩

end Session

end Parley
