import Parley.Proofs.Session.Onward
import Parley.Proofs.Turn.Added
import Parley.Proofs.Turn.Stream

/-! # The story of a turn

From the line that begins a turn to the drawings that end it, three things go side by side: what the
turn adds to the transcript, what its reader receives of a stream, and what the session shows. What
is shown is at every moment what was received so far, and nothing else.
-/

namespace Parley

namespace Increment

/-- The pieces of a stream that are shown. -/
def pieces (is : List Increment) : List String :=
  (is.filter fun i => !i.isError && i.text ≠ "").map Increment.text

variable {is : List Increment} {i : Increment}

theorem join_pieces (is : List Increment) : String.join (pieces is) = gathered is := by
  induction is with
  | nil => rfl
  | cons i is ih =>
    simp only [pieces, gathered] at ih ⊢
    cases he : i.isError with
    | true => simpa [he] using ih
    | false =>
      by_cases ht : i.text = ""
      · simpa [he, ht, String.join_cons] using ih
      · simpa [he, ht, String.join_cons] using ih

theorem pieces_concat_shown (he : i.isError = false) (ht : i.text ≠ "") :
    pieces (is ++ [i]) = pieces is ++ [i.text] := by
  simp [pieces, he, ht]

theorem pieces_concat_hidden (h : i.isError = true ∨ i.text = "") :
    pieces (is ++ [i]) = pieces is := by
  rcases h with h | h <;> simp [pieces, h]

end Increment

namespace Session

open Drawing Increment Service

/-- What a session has shown of a stream, and what it remembers of it. -/
structure Shown (label : String) (received : List Increment) (shown : Bool)
    (failure : Option Error) (ds : List Drawing) : Prop where
  drawn : ds = ofPieces label (pieces received)
  shown_iff : shown = true ↔ pieces received ≠ []
  calm_iff : failure = none ↔ ∀ i ∈ received, i.isError = false
  failed : ∀ e, failure = some e → ∃ i ∈ received, i.error = some e

def Phase.Tells (label : String) (received : List Increment) (sawEnd : Bool) (stage : Turn.Stage)
    (ds : List Drawing) : Phase → Prop
  | .calling => received = [] ∧ sawEnd = false ∧ ds = []
  | .receiving shown failure => sawEnd = false ∧ (∃ feed relay, stage = .streaming feed relay) ∧
    Shown label received shown failure ds
  | .closing (.called result) => stage = .answered result ∧ ds = []
  | .closing (.streamed shown failure) => sawEnd = true ∧
    (∃ feed relay, stage = .streaming feed relay) ∧ Shown label received shown failure ds

/-- A turn under way, compared with the session that began it. -/
structure Story (P : Performance → Prop) (b : Session) (k : Nat) (text : String) (phase : Phase)
    (t : Turn) (added : List (Role × String)) (received : List Increment) (sawEnd : Bool)
    (s : Session) : Prop where
  id_eq : s.id = b.id
  settings_eq : s.settings = b.settings
  streaming_eq : s.streaming = b.streaming
  input_eq : s.input = b.input
  stage_eq : s.stage = .inTurn k phase
  follows : Follows b.service k b.id text added t s.service
  plays : Plays P received sawEnd t
  tells : ∃ ds, s.lasting = b.lasting ++ ds ∧
    phase.Tells b.settings.assistantName received sawEnd t.stage ds

variable {P : Performance → Prop} {b s s' : Session} {k i : Nat} {text label : String}
  {phase : Phase} {t t' : Turn} {added : List (Role × String)} {received : List Increment}
  {sawEnd sawEnd' shown : Bool} {failure : Option Error} {ds : List Drawing} {v v' u : Service}
  {p : Turn.Part}

theorem shown_nil (label : String) : Shown label [] false none [] where
  drawn := rfl
  shown_iff := by simp [pieces]
  calm_iff := by simp
  failed e h := by cases h

theorem Shown.receive (h : Shown s.settings.assistantName received shown failure ds) (k : Nat)
    (i : Increment) : ∃ shown' failure' more,
      s.receive k shown failure i =
        { s with stage := .inTurn k (.receiving shown' failure') }.draw more ∧
      Drawing.lasting more = more ∧
      Shown s.settings.assistantName (received ++ [i]) shown' failure' (ds ++ more) := by
  obtain ⟨hdrawn, hshown, hcalm, hfailed⟩ := h
  unfold Session.receive
  split
  · next e he =>
    have herror : i.isError = true := by simp [isError, he]
    refine ⟨shown, some e, [], by simp [draw], rfl, ?_, ?_, ?_, ?_⟩
    · rw [List.append_nil, pieces_concat_hidden (.inl herror)]
      exact hdrawn
    · rw [pieces_concat_hidden (.inl herror)]
      exact hshown
    · simp [herror]
    · intro e' he'
      obtain rfl := Option.some.inj he'
      exact ⟨i, by simp, he⟩
  · next he =>
    have herror : i.isError = false := by simp [isError, he]
    have hcalm' : failure = none ↔ ∀ j ∈ received ++ [i], j.isError = false := by
      simpa [or_imp, forall_and, herror] using hcalm
    have hfailed' : ∀ e, failure = some e → ∃ j ∈ received ++ [i], j.error = some e := by
      intro e hf
      obtain ⟨j, hj, hje⟩ := hfailed e hf
      exact ⟨j, List.mem_append_left _ hj, hje⟩
    split
    · next ht =>
      have hsame : pieces (received ++ [i]) = pieces received := pieces_concat_hidden (.inr ht)
      refine ⟨shown, failure, [], by simp [draw], rfl, ?_, ?_, hcalm', hfailed'⟩
      · rw [List.append_nil, hsame]
        exact hdrawn
      · rw [hsame]
        exact hshown
    · next ht =>
      have hmore : pieces (received ++ [i]) = pieces received ++ [i.text] :=
        pieces_concat_shown herror ht
      refine ⟨true, failure, _, rfl, ?_, ?_, ?_, hcalm', hfailed'⟩
      · cases shown <;> rfl
      · rw [hmore, ofPieces_concat, hdrawn]
        cases shown <;> simp_all
      · simp [hmore]

theorem Story.quiet (h : Story P b k text phase t added received sawEnd s) (hq : Quiet s s') :
    ∃ c, Story P b k text phase { t with cancelled := t.cancelled || c } added received sawEnd
      s' := by
  obtain ⟨f, hf⟩ := hq.turns
  have hfind : s'.service.archive.find? b.id = s.service.archive.find? b.id := by
    rw [hq.archive_eq]
  obtain ⟨t', -, hfollows⟩ := h.follows.of_core hq.onward.service hfind hq.core_eq
  have hhere := hfollows.here
  rw [hf k, h.follows.here] at hhere
  obtain rfl := Option.some.inj hhere
  refine ⟨f k, hq.id_eq.trans h.id_eq, hq.settings_eq.trans h.settings_eq,
    hq.streaming_eq.trans h.streaming_eq, hq.input_eq.trans h.input_eq,
    hq.stage_eq.trans h.stage_eq, hfollows, h.plays.cancel (f k), ?_⟩
  obtain ⟨ds, hds, htells⟩ := h.tells
  exact ⟨ds, hq.lasting_eq.trans hds, htells⟩

theorem Story.other (h : Story P b k text phase t added received sawEnd s)
    (hu : s.service.step i p = some u) (hi : i ≠ k) :
    Story P b k text phase t added received sawEnd { s with service := u } :=
  ⟨h.id_eq, h.settings_eq, h.streaming_eq, h.input_eq, h.stage_eq, h.follows.other hu hi, h.plays,
    h.tells⟩

theorem Phase.Tells.move (hm : Service.Move v t t' v')
    (h : phase.Tells label received sawEnd t.stage ds) :
    phase.Tells label received sawEnd t'.stage ds := by
  have hstreaming (hs : ∃ feed relay, t.stage = .streaming feed relay) :
      ∃ feed relay, t'.stage = .streaming feed relay := by
    obtain ⟨feed, relay, hs⟩ := hs
    cases hm with
    | call hm => cases hm <;> simp_all
    | feed | relay => exact ⟨_, _, rfl⟩
  cases phase with
  | calling => exact h
  | receiving =>
    obtain ⟨hend, hs, hshown⟩ := h
    exact ⟨hend, hstreaming hs, hshown⟩
  | closing ending =>
    cases ending with
    | called =>
      obtain ⟨hs, hds⟩ := h
      cases hm with
      | call hm => cases hm <;> simp_all
      | feed | relay => simp_all
    | streamed =>
      obtain ⟨hend, hs, hshown⟩ := h
      exact ⟨hend, hstreaming hs, hshown⟩

theorem Story.own (h : Story P b k text phase t added received sawEnd s)
    (hstep : s.service.turnStep t p = some (t', v'))
    (hnext : ∀ said, t.stage = .asked said → P s.service.generator.next) :
    ∃ more, Story P b k text phase t' (added ++ more) received sawEnd
      { s with service := { v' with turns := s.service.turns.set k t' } } := by
  obtain ⟨more, hfollows⟩ := h.follows.own hstep
  obtain ⟨ds, hds, htells⟩ := h.tells
  exact ⟨more, h.id_eq, h.settings_eq, h.streaming_eq, h.input_eq, h.stage_eq, hfollows,
    h.plays.step hstep hnext, ds, hds, htells.move (turnStep_move hstep)⟩

theorem Story.close {ending : Ending} (h : Story P b k text phase t added received sawEnd s)
    (hplays : Plays P received sawEnd' t)
    (htells : ∀ ds, phase.Tells b.settings.assistantName received sawEnd t.stage ds →
      (Phase.closing ending).Tells b.settings.assistantName received sawEnd' t.stage ds) :
    Story P b k text (.closing ending) t added received sawEnd' (s.close k ending) := by
  obtain ⟨ds, hds, hd⟩ := h.tells
  exact ⟨h.id_eq, h.settings_eq, h.streaming_eq, h.input_eq, rfl, h.follows, hplays, ds, hds,
    htells ds hd⟩

theorem Story.receiveNext {feed : Feed} {relay : Relay} {j : Increment} {sink : Channel Increment}
    (h : Story P b k text (.receiving shown failure) t added received sawEnd s)
    (hs : t.stage = .streaming feed relay) (hr : relay.sink.receive = .item j sink) :
    ∃ shown' failure', Story P b k text (.receiving shown' failure')
      { t with stage := .streaming feed { relay with sink } } added (received ++ [j]) sawEnd
      ({ s with service := s.service.updateSink k fun _ => sink }.receive k shown failure j) := by
  obtain ⟨ds, hds, hend, -, hshown⟩ := h.tells
  rw [← h.settings_eq] at hshown
  let s₁ : Session := { s with service := s.service.updateSink k fun _ => sink }
  obtain ⟨shown', failure', more, he, hmore, hshown'⟩ := Shown.receive (s := s₁) hshown k j
  refine ⟨shown', failure', ?_⟩
  rw [he]
  refine ⟨h.id_eq, h.settings_eq, h.streaming_eq, h.input_eq, rfl, h.follows.updateSink hs sink,
    h.plays.receive hs hr, ds ++ more, ?_, hend, ⟨_, _, rfl⟩, ?_⟩
  · rw [lasting_draw, hmore, ← List.append_assoc, ← hds]
    rfl
  · rw [← h.settings_eq]
    exact hshown'

inductive Goes (k : Nat) (v : Service) (t : Turn) : Turn → Service → Prop where

  | stay : Goes k v t t v

  | own {p : Turn.Part} {t' : Turn} {v' : Service} : v.turnStep t p = some (t', v') →
      Goes k v t t' { v' with turns := v.turns.set k t' }

  | other {i : Nat} {p : Turn.Part} {u : Service} : i ≠ k → v.step i p = some u → Goes k v t t u

  | quiet {c : Bool} {u : Service} : u.generator = v.generator →
      u.turns.map Turn.core = v.turns.map Turn.core →
      Goes k v t { t with cancelled := t.cancelled || c } u

  | receive {feed : Feed} {relay : Relay} {sink : Channel Increment} :
      t.stage = .streaming feed relay →
      Goes k v t { t with stage := .streaming feed { relay with sink } }
        (v.updateSink k fun _ => sink)

/-- A step of a session in a turn goes on with the story, or ends it. -/
theorem Story.turn (h : Story P b k text phase t added received sawEnd s)
    (hmove : TurnMove s k phase s') :
    (∃ phase' t' received' sawEnd', Goes k s.service t t' s'.service ∧
        Story P b k text phase' t' added received' sawEnd' s') ∨
      ∃ ending, phase = .closing ending ∧ s' = s.conclude k ending := by
  cases hmove with
  | @answered _ result ht hs =>
    obtain rfl := Option.some.inj (h.follows.here.symm.trans ht)
    refine .inl ⟨.closing (.called result), t, received, sawEnd, .stay, h.close h.plays ?_⟩
    rintro ds ⟨-, -, hds⟩
    exact ⟨hs, hds⟩
  | @opened _ feed relay ht hs =>
    obtain rfl := Option.some.inj (h.follows.here.symm.trans ht)
    refine .inl ⟨.receiving false none, t, received, sawEnd, .stay, h.id_eq, h.settings_eq,
      h.streaming_eq, h.input_eq, rfl, h.follows, h.plays, ?_⟩
    obtain ⟨ds, hlasting, rfl, hend, rfl⟩ := h.tells
    exact ⟨[], hlasting, hend, ⟨feed, relay, hs⟩, shown_nil _⟩
  | @receive _ _ _ i sink shown failure ht hs hr =>
    obtain rfl := Option.some.inj (h.follows.here.symm.trans ht)
    obtain ⟨shown', failure', hstory⟩ := h.receiveNext hs hr
    refine .inl ⟨_, _, _, _, ?_, hstory⟩
    obtain ⟨_, _, _, he⟩ := receive_eq { s with service := s.service.updateSink k fun _ => sink }
      k shown failure i
    rw [he]
    exact .receive hs
  | seeEnd ht hs hr =>
    obtain rfl := Option.some.inj (h.follows.here.symm.trans ht)
    refine .inl ⟨_, t, received, true, .stay, h.close (h.plays.seeEnd hs hr) ?_⟩
    rintro ds ⟨-, hstreaming, hshown⟩
    exact ⟨rfl, hstreaming, hshown⟩
  | @conclude ending => exact .inr ⟨ending, rfl, rfl⟩

theorem Story.step {m : Move} (h : Story P b k text phase t added received sawEnd s)
    (hnext : ∀ said, t.stage = .asked said → P s.service.generator.next)
    (hm : s.step m = some s') :
    (∃ phase' t' added' received' sawEnd', Goes k s.service t t' s'.service ∧
        Story P b k text phase' t' added' received' sawEnd' s') ∨
      ∃ ending, phase = .closing ending ∧ s' = s.conclude k ending := by
  cases next_of_step hm with
  | leave hs | read hs => simp [h.stage_eq] at hs
  | turn hs hmove =>
    obtain ⟨rfl, rfl⟩ := Stage.inTurn.inj (h.stage_eq.symm.trans hs)
    rcases h.turn hmove with ⟨phase', t', received', sawEnd', hgoes, h'⟩ | hend
    · exact .inl ⟨phase', t', added, received', sawEnd', hgoes, h'⟩
    · exact .inr hend
  | @part i p u hu =>
    by_cases hi : i = k
    · subst hi
      obtain ⟨t₁, t', v', ht₁, hstep, rfl⟩ := step_eq_some_iff.mp hu
      obtain rfl := Option.some.inj (h.follows.here.symm.trans ht₁)
      obtain ⟨more, h'⟩ := h.own hstep hnext
      exact .inl ⟨phase, t', added ++ more, received, sawEnd, .own hstep, h'⟩
    · exact .inl ⟨phase, t, added, received, sawEnd, .other hi hu, h.other hu hi⟩
  | quiet hq =>
    obtain ⟨c, h'⟩ := h.quiet hq
    exact .inl ⟨phase, _, added, received, sawEnd, .quiet hq.generator_eq hq.core_eq, h'⟩

end Session

end Parley
