import Parley.Proofs.Session.Conversation

/-! # Conversations that nobody disturbs

When neither the session nor one of its turns is cancelled, every line of a conversation is recorded
and shown, and so is the reply to it, at whatever pace the generator, the relay and the indicator go.
-/

namespace Parley

namespace Session

open Service Display

variable {service : Service} {input : List Entry} {s₀ b e s s' : Session} {k : Nat} {phase : Phase}
  {t : Turn} {x : String × String} {done todo exchanges : List (String × String)} {m : Move}
  {lines : List String} {said : List (String × Bool)}

/-- Nobody has cancelled the session or any of its turns. -/
def Undisturbed (s : Session) : Prop :=
  s.cancelled = false ∧ ∀ t ∈ s.service.turns, t.cancelled = false

theorem Undisturbed.of_onward (h : Onward s s') (hu : s'.Undisturbed) : s.Undisturbed := by
  obtain ⟨hsession, hturns⟩ := hu
  constructor
  · by_contra hc
    simp [h.cancelled (by simpa using hc)] at hsession
  · intro t ht
    obtain ⟨i, hi⟩ := List.mem_iff_getElem?.mp ht
    obtain ⟨t', ht', hkeeps⟩ := h.service.turns i t hi
    by_contra hc
    have hc' := hkeeps (by simpa using hc)
    simp [hturns t' (List.mem_of_getElem? ht')] at hc'

/-- A session is opened for a conversation: its store takes everything, its lines are messages, and
the generator has a reply to each of them, in the way in which the session asks. -/
structure Dialogue (service : Service) (input : List Entry) (exchanges : List (String × String))
    (s₀ : Session) : Prop where
  opens : Opens service input s₀
  alone : service.turns = []
  unfailing : service.archive.Unfailing
  lines : input.map (fun e => turnLine? e.reading) = exchanges.map fun x => some x.1
  gives : List.Forall₂ (fun p x => p.Gives s₀.streaming x.2) service.generator.script exchanges
  spoken : ∀ x ∈ exchanges, x.2 ≠ ""

structure Conversation (service : Service) (input : List Entry)
    (exchanges : List (String × String)) (s₀ e : Session) : Prop
    extends Dialogue service input exchanges s₀ where
  leads : s₀.Leads e
  ended : ∃ result, e.stage = .over result
  undisturbed : e.Undisturbed

def Speaks (s₀ : Session) (exchanges : List (String × String)) (s : Session) : Prop :=
  match s.stage with
  | .awaiting => ∃ done todo, exchanges = done ++ todo ∧ Rested s₀ done todo s
  | .over _ => Rested s₀ exchanges [] s
  | .inTurn k phase => ∃ done x todo b t, exchanges = done ++ x :: todo ∧ s₀.Leads b ∧
    Asks s₀ done x todo b k phase t s

/-- Between two turns every move but the next reading leaves all as it was told. -/
theorem Rested.move (h : Rested s₀ done todo s) (hrest : AtRest s₀.id lines said s.service)
    (hstage : ∀ k phase, s.stage ≠ .inTurn k phase) (hc : s.cancelled = false)
    (hm : s.step m = some s') : (Rested s₀ done todo s' ∧ s'.stage = s.stage) ∨
      s.stage = .awaiting ∧ s' = s.readLine := by
  cases next_of_step hm with
  | leave _ hc' => simp [hc] at hc'
  | read hs => exact .inr ⟨hs, rfl⟩
  | turn hs => exact absurd hs (hstage _ _)
  | part hu => exact .inl ⟨h.part hrest hu, rfl⟩
  | quiet hq => exact .inl ⟨h.idle (hq.idle s₀.id), hq.stage_eq⟩

theorem Asks.move (h : Asks s₀ done x todo b k phase t s) (hm : s.step m = some s') :
    (∃ phase' t', Asks s₀ done x todo b k phase' t' s') ∨
      ∃ ending, phase = .closing ending ∧ s' = s.conclude k ending := by
  obtain ⟨htold, ⟨added, received, sawEnd, hstory⟩, rest, hgives, hawaits⟩ := h
  have hnext : ∀ text, t.stage = .asked text →
      s.service.generator.next.Gives s₀.streaming x.2 := by
    intro text hs
    have hexpects := hawaits.expects
    rw [hs] at hexpects
    obtain ⟨p, hscript, hp⟩ := hexpects
    rw [Generator.next, hscript]
    exact hp
  rcases hstory.step hnext hm with
    ⟨phase', t', added', received', sawEnd', hgoes, hstory'⟩ | hend
  · exact .inl ⟨phase', t', htold, ⟨_, _, _, hstory'⟩, rest, hgives, hgoes.awaits hawaits⟩
  · exact .inr hend

theorem Speaks.step (hd : Dialogue service input exchanges s₀) (hs : s₀.Leads s)
    (h : Speaks s₀ exchanges s) (hm : s.step m = some s') (hu : s.Undisturbed) :
    Speaks s₀ exchanges s' := by
  obtain ⟨hopens, -, hstore, -, -, hspoken⟩ := hd
  obtain ⟨said, hord⟩ := hopens.orderly hs
  have hstands := hord.stands
  have hleads := hs.step hm
  unfold Speaks at h ⊢
  match hstage : s.stage with
  | .awaiting =>
    rw [hstage] at h hstands
    obtain ⟨done, todo, rfl, h⟩ := h
    obtain ⟨read, -, hrest⟩ := hstands
    rcases h.move hrest (by simp [hstage]) hu.1 hm with ⟨h', hstage'⟩ | ⟨-, rfl⟩
    · rw [hstage', hstage]
      exact ⟨done, todo, rfl, h'⟩
    · rcases h.readLine hord hstage with
        ⟨rfl, ⟨result, hover⟩, hrested⟩ | ⟨x, todo', k, t, rfl, hturn, hasks⟩
      · rw [hover, List.append_nil]
        exact hrested
      · rw [hturn]
        exact ⟨done, x, todo', _, t, rfl, hleads, hasks⟩
  | .over result =>
    rw [hstage] at h hstands
    obtain ⟨read, -, hrest⟩ := hstands
    rcases h.move hrest (by simp [hstage]) hu.1 hm with ⟨h', hstage'⟩ | ⟨hawaiting, -⟩
    · rw [hstage', hstage]
      exact h'
    · simp [hstage] at hawaiting
  | .inTurn k phase =>
    rw [hstage] at h
    obtain ⟨done, x, todo, b, t, rfl, hb, hasks⟩ := h
    rcases hasks.move hm with ⟨phase', t', hasks'⟩ | ⟨ending, rfl, rfl⟩
    · rw [hasks'.stage_eq]
      exact ⟨done, x, todo, b, t', rfl, hb, hasks'⟩
    · obtain ⟨_, _, _, hstory⟩ := hasks.story
      have hc := hu.2 t (List.mem_of_getElem? hstory.follows.here)
      have hx : x.2 ≠ "" := hspoken x (by simp)
      exact ⟨done ++ [x], todo, by simp, hasks.conclude (hopens.unfailing hb hstore) hc hx⟩

theorem Dialogue.rested (h : Dialogue service input exchanges s₀) :
    Rested s₀ [] exchanges s₀ ∧ s₀.stage = .awaiting := by
  obtain ⟨⟨⟨settings, cancelled, hnew⟩, -, -⟩, halone, -, hlines, hgives, -⟩ := h
  obtain ⟨t, archive, hc, rfl⟩ := new_eq_ok_iff.mp hnew
  obtain ⟨hempty, hfind⟩ := Archive.find?_create hc
  have hpairs : t.pairs = [].flatMap exchangePairs := by simp [Transcript.pairs, hempty]
  refine ⟨⟨⟨rfl, rfl, rfl, hlines, ⟨t, hfind, hpairs⟩, rfl, rfl⟩, hgives, ?_⟩, rfl⟩
  intro i u hu
  simp [halone] at hu

theorem Dialogue.speaks (h : Dialogue service input exchanges s₀) (hs : s₀.Leads s)
    (hu : s.Undisturbed) : Speaks s₀ exchanges s := by
  have hbegin : Speaks s₀ exchanges s₀ := by
    obtain ⟨hrested, hawaiting⟩ := h.rested
    unfold Speaks
    rw [hawaiting]
    exact ⟨[], exchanges, rfl, hrested⟩
  have hrun := hs.keeps (P := fun u => s₀.Leads u ∧ (u.Undisturbed → Speaks s₀ exchanges u))
    (fun {u u'} m hu hm => by
      obtain ⟨hleads, hspeaks⟩ := hu
      refine ⟨hleads.step hm, fun hu' => ?_⟩
      have hu := hu'.of_onward (onward_step hm)
      exact (hspeaks hu).step h hleads hm hu)
    ⟨.refl s₀, fun _ => hbegin⟩
  exact hrun.2 hu

theorem Dialogue.asks (h : Dialogue service input exchanges s₀) (hs : s₀.Leads s)
    (hu : s.Undisturbed) (hstage : s.stage = .inTurn k phase) :
    ∃ done x todo b t, Asks s₀ done x todo b k phase t s := by
  have hspeaks := h.speaks hs hu
  rw [Speaks, hstage] at hspeaks
  obtain ⟨done, x, todo, b, t, -, -, hasks⟩ := hspeaks
  exact ⟨done, x, todo, b, t, hasks⟩

theorem Conversation.told (h : Conversation service input exchanges s₀ e) :
    Told s₀ exchanges [] e := by
  obtain ⟨hdialogue, hleads, ⟨result, hover⟩, hu⟩ := h
  have hend := hdialogue.speaks hleads hu
  unfold Speaks at hend
  rw [hover] at hend
  exact hend.toTold

end Session

end Parley
