import Parley.Proofs.Runs
import Parley.Proofs.Session.Turns

/-! # The shape of a transcript

Whatever is said in a session and however its turns come out, its transcript is a row of blocks
whenever the session is about to read a line, and when it is over: every line that the store took,
in the order in which the lines were read, with the reply to it right behind it, if there is one.
-/

namespace Parley

namespace Session

open Service

/-- What the user of a session says with a move, and whether the store takes it. -/
def heard (s : Session) : Move → List (String × Bool)
  | .part k _ =>
    match s.service.turns[k]? with
    | some t => if t.session = s.id then s.service.hearing t else []
    | none => []
  | _ => []

/-- A session with what was said in it so far, and whether the store took it. -/
structure Journal where
  session : Session
  said : List (String × Bool) := []

namespace Journal

def step (j : Journal) (m : Move) : Option Journal :=
  (j.session.step m).map fun session => { session, said := j.said ++ j.session.heard m }

end Journal

variable {id : SessionId} {said : List (String × Bool)} {input : List Entry} {s s' : Session}
  {u : Service} {i : Nat} {t : Turn} {p : Turn.Part}

/-- What holds of a session that was opened with this input. -/
structure Orderly (id : SessionId) (input : List Entry) (j : Journal) : Prop where
  id_eq : j.session.id = id
  spared : ∀ e ∈ j.session.input, .deleteSession id ∉ e.interludes
  stands : ∃ read, input = read ++ j.session.input ∧
    Stands id (turnLines read) j.said j.session.service j.session.stage

theorem Orderly.readLine (h : Orderly id input { session := s, said })
    (hs : s.stage = .awaiting) : Orderly id input { session := s.readLine, said } := by
  obtain ⟨hid, hspared, read, hread, hstands⟩ := h
  dsimp only at hid hspared hread hstands
  rw [hs] at hstands
  rw [Session.readLine]
  split
  · next hi => exact ⟨hid, by simp [Session.take, hi], read, hread, hstands⟩
  · next e rest hi =>
    rw [hi] at hspared hread
    let s₀ : Session := { s with input := rest, events := s.events ++ [Event.prompt s.prompt] }
    have ha : Aside id s₀ (e.interludes.foldl interlude s₀) :=
      aside_interludes (hspared e List.mem_cons_self) s₀
    have hrest : AtRest id (turnLines read) said s₀.service := hstands
    obtain ⟨hstands', hid', hinput⟩ :=
      (hrest.aside ha).take (ha.stage_eq.trans hs) (ha.id_eq.trans hid) e.reading
    rw [← turnLines_concat] at hstands'
    have hinput' : ((e.interludes.foldl interlude s₀).take e.reading).input = rest :=
      hinput.trans ha.input_eq
    refine ⟨hid'.trans (ha.id_eq.trans hid), fun e' he => ?_, read ++ [e], ?_, hstands'⟩
    · exact hspared e' (List.mem_cons_of_mem e (hinput' ▸ he))
    · rw [List.append_assoc, hread]
      exact congrArg (read ++ e :: ·) hinput'.symm

theorem Orderly.aside (h : Orderly id input { session := s, said })
    (ha : Aside id s s') : Orderly id input { session := s', said } := by
  obtain ⟨hid, hspared, read, hread, hstands⟩ := h
  refine ⟨ha.id_eq.trans hid, ?_, read, ?_, hstands.aside ha⟩
  · simpa only [ha.input_eq] using hspared
  · simpa only [ha.input_eq] using hread

theorem Orderly.loop (h : Orderly id input { session := s, said })
    (hs : s.loopStep = some s') : Orderly id input { session := s', said } := by
  rcases loopStep_cases hs with
    ⟨hstage, -, rfl⟩ | ⟨hstage, -, rfl⟩ | ⟨k, phase, hstage, hmove⟩
  · obtain ⟨hid, hspared, read, hread, hstands⟩ := h
    dsimp only at hstands
    rw [hstage] at hstands
    exact ⟨hid, hspared, read, hread, hstands⟩
  · exact h.readLine hstage
  · obtain ⟨hid, hspared, read, hread, hstands⟩ := h
    dsimp only at hid hspared hread hstands
    rw [hstage] at hstands
    obtain ⟨t, hunder⟩ := hstands
    obtain ⟨hstands', hid', hinput⟩ := hunder.turn hmove
    exact ⟨hid'.trans hid, hinput ▸ hspared, read, by rw [hread, hinput], hstands'⟩

theorem heard_of_harmless (ht : s.service.turns[i]? = some t) (h : t.Harmless s.id) :
    s.heard (.part i p) = [] := by
  rw [heard, ht]
  dsimp only
  split
  · next he => exact hearing_of_harmless h he
  · rfl

theorem Orderly.part (h : Orderly id input { session := s, said })
    (hu : s.service.step i p = some u) :
    Orderly id input
      { session := { s with service := u }, said := said ++ s.heard (.part i p) } := by
  obtain ⟨hid, hspared, read, hread, hstands⟩ := h
  dsimp only at hid hspared hread hstands
  refine ⟨hid, hspared, read, hread, ?_⟩
  obtain ⟨t, _, _, ht, -, -⟩ := step_eq_some_iff.mp hu
  dsimp only
  cases hs : s.stage with
  | inTurn k phase =>
    rw [hs] at hstands
    obtain ⟨t₁, hunder⟩ := hstands
    by_cases hi : i = k
    · subst hi
      have hheard : s.heard (.part i p) = s.service.hearing t₁ := by
        simp [heard, hunder.here, hunder.session_eq, hid]
      rw [hheard]
      exact hunder.own hu
    · rw [heard_of_harmless ht (hid ▸ hunder.others i t ht hi), List.append_nil]
      exact ⟨t₁, hunder.other hu hi⟩
  | _ =>
    rw [hs] at hstands
    have hrest : AtRest id (turnLines read) said s.service := hstands
    rw [heard_of_harmless ht (hid ▸ hrest.harmless i t ht), List.append_nil]
    exact hrest.part hu

theorem Orderly.step {j j' : Journal} (m : Move) (h : Orderly id input j)
    (hm : j.step m = some j') : Orderly id input j' := by
  obtain ⟨s, said⟩ := j
  obtain ⟨s', hs, rfl⟩ := Option.map_eq_some_iff.mp hm
  cases m with
  | loop => simpa [heard] using h.loop hs
  | indicator => simpa [heard] using h.aside (aside_indicatorStep hs)
  | part k p =>
    obtain ⟨u, hu, rfl⟩ := Option.map_eq_some_iff.mp hs
    exact h.part hu
  | signal x =>
    obtain rfl := Option.some.inj hs
    simpa [heard] using h.aside (aside_signal id s x)
  | alarm => simpa [heard] using h.aside (aside_alarmStep hs)
  | wait moment =>
    obtain rfl := eq_of_wait hs
    have ha : Aside id s { s with service := { s.service with now := moment } } :=
      ⟨rfl, rfl, rfl, rfl, rfl⟩
    simpa [heard] using h.aside ha

theorem orderly_new {service : Service} {settings : Settings} {cancelled : Bool}
    (h : Session.new service settings input cancelled = .ok s)
    (hothers : ∀ t ∈ service.turns, t.Harmless s.id)
    (hkept : ∀ e ∈ input, .deleteSession s.id ∉ e.interludes) :
    Orderly s.id input { session := s } := by
  obtain ⟨t, archive, hc, rfl⟩ := new_eq_ok_iff.mp h
  obtain ⟨hempty, hfind⟩ := Archive.find?_create hc
  refine ⟨rfl, hkept, [], rfl, fun i t ht => hothers t (List.mem_of_getElem? ht), rfl, ?_⟩
  exact ⟨t, [], hfind, by simp [Transcript.pairs, hempty], rfl, fun h => by cases h⟩

/-- Whenever a session is about to read a line, and when it is over, its transcript consists of a
block for each line that became a turn and that the store took, in the order of the lines. -/
theorem transcript_in_blocks {service : Service} {settings : Settings} {input : List Entry}
    {cancelled : Bool} {s : Session} {moves : List Move} {j : Journal}
    (hnew : Session.new service settings input cancelled = .ok s)
    (hothers : ∀ t ∈ service.turns, t.Harmless s.id)
    (hkept : ∀ e ∈ input, .deleteSession s.id ∉ e.interludes)
    (h : moves.foldlM Journal.step { session := s } = some j)
    (hs : j.session.stage = .awaiting ∨ ∃ result, j.session.stage = .over result) :
    ∃ (read : List Entry) (blocks : List Block) (t : Transcript),
      input = read ++ j.session.input ∧ j.said.map (·.1) = turnLines read ∧
      j.session.service.archive.find? s.id = some t ∧ t.pairs = blocks.flatMap Block.pairs ∧
      blocks.map Block.text = kept j.said ∧ t.turnCount = blocks.countP (·.reply.isSome) ∧
      (∀ pre text post, t.pairs = pre ++ (.assistant, text) :: post →
        ∃ before b, b ∈ blocks ∧ b.reply = some text ∧ pre = before ++ [(.user, b.text)]) ∧
      ∀ pre x y post, t.pairs = pre ++ x :: y :: post →
        ¬ (x.1 = .assistant ∧ y.1 = .assistant) := by
  obtain ⟨-, -, read, hread, hstands⟩ :=
    keeps_foldlM (fun m hj hm => Orderly.step m hj hm) h (orderly_new hnew hothers hkept)
  have hrest : AtRest s.id (turnLines read) j.said j.session.service := by
    rcases hs with hs | ⟨result, hs⟩ <;> rwa [hs] at hstands
  obtain ⟨t, blocks, ht, hpairs, htexts, -⟩ := hrest.inBlocks
  refine ⟨read, blocks, t, hread, hrest.lines_eq, ht, hpairs, htexts, ?_, ?_, ?_⟩
  · rw [t.turnCount_eq, hpairs, Block.countP_pairs]
  · rw [hpairs]
    exact fun pre text post hp => Block.user_of_assistant hp
  · rintro pre x ⟨role, text⟩ post hp ⟨hx, rfl⟩
    rw [hpairs] at hp
    have hp' : blocks.flatMap Block.pairs = (pre ++ [x]) ++ (.assistant, text) :: post := by
      simpa using hp
    obtain ⟨before, b, -, -, hb⟩ := Block.user_of_assistant hp'
    obtain ⟨-, hx'⟩ := List.append_inj' hb rfl
    simp [List.singleton_inj.mp hx'] at hx

theorem result?_eq_some_iff {result : Except Error Unit} :
    s.result? = some result ↔ s.stage = .over result := by
  rw [result?]
  split <;> simp_all

/-- A streamed turn and, after a switch to whole replies, a turn that fails. -/
theorem transcript_in_blocks_two_turns :
    let script : List Performance :=
      [{ whole := .silence
         streamed := .ok { capacity := 1, increments := [(0, .ofText "He"), (0, .last "llo")] } },
        { whole := .failure Generator.exhausted, streamed := .error Generator.exhausted }]
    let service : Service := { archive := { clock := default }, generator := { script } }
    let input : List Entry := [{ reading := .ok (.line " Hi ") },
      { reading := .ok (.line "/stream off") }, { reading := .ok (.line "More") }]
    let moves : List Move := [.loop, .part 0 .call, .part 0 .call, .loop, .part 0 .feed,
      .part 0 .relay, .part 0 .relay, .part 0 .relay, .loop, .part 0 .feed, .part 0 .relay,
      .part 0 .relay, .part 0 .relay, .loop, .part 0 .relay, .loop, .indicator, .loop, .loop, .loop,
      .part 1 .call, .part 1 .call, .part 1 .call, .loop, .indicator, .loop, .loop]
    ∃ (s : Session) (j : Journal) (t : Transcript) (blocks : List Block),
      Session.new service {} input = .ok s ∧ moves.foldlM Journal.step { session := s } = some j ∧
      j.session.service.archive.find? s.id = some t ∧ t.pairs = blocks.flatMap Block.pairs ∧
      blocks.map Block.text = ["Hi", "More"] ∧
      t.turnCount = blocks.countP (·.reply.isSome) := by
  intro script service input moves
  let opened := (Session.new service {} input).toOption
  let run := opened.bind fun s => moves.foldlM Journal.step { session := s }
  obtain ⟨j, hrun⟩ : ∃ j, run = some j := Option.isSome_iff_exists.mp (by decide +kernel)
  have hsaid : run.map Journal.said = some [("Hi", true), ("More", true)] := by decide +kernel
  have hover : run.map (·.session.result?.isSome) = some true := by decide +kernel
  simp only [hrun, Option.map_some, Option.some.injEq] at hsaid hover
  obtain ⟨s, hopened, h⟩ := Option.bind_eq_some_iff.mp hrun
  have hnew := toOption_eq_some_iff.mp hopened
  obtain ⟨result, hresult⟩ := Option.isSome_iff_exists.mp hover
  have hkept : ∀ e ∈ input, .deleteSession s.id ∉ e.interludes := by simp [input]
  obtain ⟨-, blocks, t, -, -, ht, hpairs, htexts, hcount, -⟩ :=
    transcript_in_blocks hnew (fun t ht => absurd ht List.not_mem_nil) hkept h
      (.inr ⟨result, result?_eq_some_iff.mp hresult⟩)
  exact ⟨s, j, t, blocks, hnew, h, ht, hpairs, by rw [htexts, hsaid]; rfl, hcount⟩

end Session

end Parley
