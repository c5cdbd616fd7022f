import Parley.Proofs.Session.Unaided
import Parley.Proofs.Session.Undisturbed

/-! # Conversations that get on

A conversation that nobody disturbs never gets stuck. However far it has come, the call of its turn,
the feed, the relay, the indicator and the session itself can take it on to the end of the turn, from
there to the next line, and so to the end of the input.
-/

namespace Parley

namespace Session

open Service

variable {service : Service} {input : List Entry} {s₀ s s' : Session} {k : Nat} {phase : Phase}
  {exchanges : List (String × String)}

theorem Opens.released (h : Opens service input s₀) (hs : s₀.Leads s) : s.Released := by
  obtain ⟨settings, cancelled, hnew⟩ := h.new
  exact hs.keeps (fun _ hu hm => hu.does (does_of_step hm)) (inHand_new hnew).released

theorem GoesOn.undisturbed (h : GoesOn s s') (hu : s.Undisturbed) : s'.Undisturbed := by
  obtain ⟨hsession, hall⟩ := hu
  refine ⟨h.cancelled_eq.trans hsession, fun t' ht' => ?_⟩
  have hmem : t'.cancelled ∈ s'.service.turns.map Turn.cancelled := List.mem_map_of_mem ht'
  rw [h.tokens_eq] at hmem
  obtain ⟨t, ht, heq⟩ := List.mem_map.mp hmem
  exact heq.symm.trans (hall t ht)

theorem Dialogue.getsOn (h : Dialogue service input exchanges s₀) (k : Nat) :
    GetsOn (fun s => s₀.Leads s ∧ s.Undisturbed) k Feed.toDo where
  keeps hP hg := ⟨hP.1.trans hg.leads, hg.undisturbed hP.2⟩
  released hP := h.opens.released hP.1
  calls {s} hP hs := by
    obtain ⟨done, x, todo, b, t, hasks⟩ := h.asks hP.1 hP.2 hs
    obtain ⟨_, _, _, hstory⟩ := hasks.story
    obtain ⟨rest, -, hdelivery, -, hexpects⟩ := hasks.awaits
    exact ⟨t, hstory.follows.here, callStep_isSome s.service hdelivery hexpects⟩
  streams {s shown failure} hP hs := by
    obtain ⟨done, x, todo, b, t, hasks⟩ := h.asks hP.1 hP.2 hs
    obtain ⟨_, _, _, hstory⟩ := hasks.story
    obtain ⟨rest, -, -, -, hexpects⟩ := hasks.awaits
    obtain ⟨ds, -, -, ⟨feed, relay, hfeed⟩, -⟩ := hstory.tells
    rw [hfeed] at hexpects
    obtain ⟨-, hstreaming⟩ := hexpects
    have hends (p : Performance) (plan : StreamPlan) (hp : p.Gives s₀.streaming x.2)
        (hplan : p.streamed = .ok plan) : plan.Ends := (hp.spells hstreaming hplan).1
    exact ⟨t, feed, relay, hstory.follows.here, hfeed,
      hstory.plays.gets_on hends s.service hfeed⟩
  receives hr := Nat.add_lt_add_left (Relay.toDo_receive_lt hr) _

theorem Dialogue.turn_ends (h : Dialogue service input exchanges s₀) (hs : s₀.Leads s)
    (hu : s.Undisturbed) (hstage : s.stage = .inTurn k phase) :
    ∃ s', GoesOn s s' ∧ s'.stage = .awaiting :=
  (h.getsOn k).turn_ends ⟨hs, hu⟩ hstage

theorem Undisturbed.beginTurn (h : s.Undisturbed) (text : String) :
    (s.beginTurn text).Undisturbed := by
  obtain ⟨hsession, hturns⟩ := h
  refine ⟨hsession, fun t ht => ?_⟩
  rcases List.mem_append.mp ht with ht | ht
  · exact hturns t ht
  · obtain rfl := List.mem_singleton.mp ht
    exact hsession

theorem readLine_of_turnLine {e : Entry} {rest : List Entry} {text : String}
    (hi : s.input = e :: rest) (hnone : e.interludes = []) (h : turnLine? e.reading = some text) :
    s.readLine = ({ s with
      input := rest, events := s.events ++ [Event.prompt s.prompt] } : Session).beginTurn text := by
  rw [Session.readLine, hi]
  dsimp only
  rw [hnone, List.foldl_nil, take_of_turnLine _ h]

theorem Dialogue.input_suffix (h : Dialogue service input exchanges s₀) (hs : s₀.Leads s) :
    s.input <:+ input := by
  obtain ⟨said, hord⟩ := h.opens.orderly hs
  obtain ⟨read, hread, -⟩ := hord.stands
  exact ⟨read, hread.symm⟩

theorem Dialogue.exists_turnLine (h : Dialogue service input exchanges s₀) {e : Entry}
    (he : e ∈ input) : ∃ text, turnLine? e.reading = some text := by
  have hmem : turnLine? e.reading ∈ exchanges.map fun x => some x.1 := by
    rw [← h.lines]
    exact List.mem_map_of_mem he
  obtain ⟨x, -, hx⟩ := List.mem_map.mp hmem
  exact ⟨x.1, hx.symm⟩

theorem Dialogue.input_ends (h : Dialogue service input exchanges s₀)
    (hnone : ∀ e ∈ input, e.interludes = []) {n : Nat} (hn : s.input.length = n) (hs : s₀.Leads s)
    (hu : s.Undisturbed) (hstage : s.stage = .awaiting) :
    ∃ e, s.Leads e ∧ e.Undisturbed ∧ ∃ result, e.stage = .over result := by
  induction n generalizing s with
  | zero =>
    have hi : s.input = [] := List.length_eq_zero_iff.mp hn
    have hover : s.readLine = { s with
        events := s.events ++ [Event.prompt s.prompt]
        stage := .over (.error (Reading.asInputError Reading.endOfInput)) } := by
      simp [Session.readLine, hi, take]
    have hlast := (Leads.refl s).step (loop_readLine hstage hu.1)
    rw [hover] at hlast
    exact ⟨_, hlast, hu, _, rfl⟩
  | succ n ih =>
    obtain ⟨e, rest, hi⟩ := List.exists_cons_of_length_eq_add_one hn
    have he : e ∈ input := (h.input_suffix hs).subset (hi ▸ List.mem_cons_self)
    obtain ⟨text, htext⟩ := h.exists_turnLine he
    let s₁ : Session := { s with input := rest, events := s.events ++ [Event.prompt s.prompt] }
    have hread : s.readLine = s₁.beginTurn text := readLine_of_turnLine hi (hnone e he) htext
    have hline : s.Leads (s₁.beginTurn text) :=
      (Leads.refl s).step (hread ▸ loop_readLine hstage hu.1)
    have hu₁ : (s₁.beginTurn text).Undisturbed := Undisturbed.beginTurn (s := s₁) hu text
    obtain ⟨s', hgoes, hawaiting⟩ := h.turn_ends (hs.trans hline) hu₁ rfl
    have hleft : s'.input.length = n := by
      have hinput : s'.input = rest := hgoes.input_eq
      rw [hinput]
      simpa [hi] using hn
    obtain ⟨u, hleads, hend⟩ := ih hleft ((hs.trans hline).trans hgoes.leads)
      (hgoes.undisturbed hu₁) hawaiting
    exact ⟨u, (hline.trans hgoes.leads).trans hleads, hend⟩

/-- A conversation that nobody disturbs can always be brought to its end. -/
theorem Dialogue.ends (h : Dialogue service input exchanges s₀)
    (hnone : ∀ e ∈ input, e.interludes = []) (hs : s₀.Leads s) (hu : s.Undisturbed) :
    ∃ e, s.Leads e ∧ Conversation service input exchanges s₀ e := by
  obtain ⟨e, hleads, hu', hover⟩ : ∃ e, s.Leads e ∧ e.Undisturbed ∧
      ∃ result, e.stage = .over result := by
    match hstage : s.stage with
    | .awaiting => exact h.input_ends hnone rfl hs hu hstage
    | .over result => exact ⟨s, .refl s, hu, result, hstage⟩
    | .inTurn k phase =>
      obtain ⟨s', hgoes, hawaiting⟩ := h.turn_ends hs hu hstage
      obtain ⟨e, hleads, hend⟩ := h.input_ends hnone rfl (hs.trans hgoes.leads)
        (hgoes.undisturbed hu) hawaiting
      exact ⟨e, hgoes.leads.trans hleads, hend⟩
  exact ⟨e, hleads, h, hs.trans hleads, hover, hu'⟩

end Session

end Parley
