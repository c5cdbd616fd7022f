import Parley.Proofs.Session.Tokens
import Parley.Proofs.Session.Unaided

/-! # Interrupts

An interrupt hits the turn under way and nothing else. It may come at any time: while a line is
read, until the moment at which the turn arms the interrupter, in the middle of the turn, and even
between the moment at which the result of the turn is settled and the moment at which the
interrupter is disarmed.
-/

namespace Parley

namespace Session

open Service

def tokens (s : Session) : Tokens where
  interrupter := s.interrupter
  turn? :=
    match s.stage with
    | .inTurn k _ => some k
    | _ => none
  session := s.cancelled
  turns := s.service.turns.map Turn.cancelled

def Interlude.ofSignal : Signal → Interlude
  | .interrupt => .interrupt
  | .cancel => .cancel

/-- What an interlude does to the tokens, if anything. -/
def Interlude.happening? (s : Session) : Interlude → Option Happening
  | .deleteSession _ => none
  | .interrupt => some (.interrupted s.interrupt.1)
  | .cancel => some .cancelled

/-- What some interludes do to the tokens, one after the other. -/
def meanwhile (s : Session) : List Interlude → List Happening
  | [] => []
  | x :: xs => (x.happening? s).toList ++ (s.interlude x).meanwhile xs

/-- Ends a turn, as `conclude` does, but with interludes between the moment at which its result is
settled and the moment at which the interrupter is disarmed. -/
def concludeLate (s : Session) (k : Nat) (ending : Ending) (late : List Interlude) : Session :=
  let u := late.foldl interlude s
  { s.conclude k ending with service := u.service, cancelled := u.cancelled }

inductive Act where
  | move (m : Move)
  | conclude (late : List Interlude)

def act (s : Session) : Act → Option Session
  | .move m => s.step m
  | .conclude late =>
    match s.stage with
    | .inTurn k (.closing ending) =>
      (s.turnStep k (.closing ending)).map fun _ => s.concludeLate k ending late
    | _ => none

def happenings (s : Session) : Act → List Happening
  | .move .loop =>
    match s.stage with
    | .awaiting =>
      match s.cancelled, s.input with
      | false, e :: rest =>
        (s.prompted rest).meanwhile e.interludes ++
          ((turnLine? e.reading).map fun _ => Happening.armed s.service.turns.length).toList
      | _, _ => []
    | .inTurn _ (.closing _) => [.disarmed]
    | _ => []
  | .move (.signal x) => s.meanwhile [.ofSignal x]
  | .move .alarm =>
    match s.service.alarms.find? (·.1 ≤ s.service.now) with
    | some a => s.meanwhile [.ofSignal a.2]
    | none => []
  | .move _ => []
  | .conclude late => s.meanwhile late ++ [.disarmed]

/-- Acts, and keeps a log of what is done to the tokens. -/
def record (l : Session × List Happening) (a : Act) : Option (Session × List Happening) :=
  (l.1.act a).map (·, l.2 ++ l.1.happenings a)

variable {s s' u : Session} {n k : Nat} {phase : Phase} {a : Act}
  {reading : Except Error Reading}

theorem map_cancelled_cancel (v : Service) (k : Nat) :
    (v.cancel k).turns.map Turn.cancelled = (v.turns.map Turn.cancelled).set k true := by
  ext1 i
  simp only [Service.cancel, update, List.getElem?_map, List.getElem?_modify, List.getElem?_set]
  by_cases hi : k = i
  · subst hi
    by_cases hk : k < v.turns.length <;> simp [hk]
  · simp [hi]

theorem interrupt_fst (s : Session) : s.interrupt.1 = s.interrupter.armed.isSome := by
  unfold interrupt Interrupter.interrupt
  cases s.interrupter.armed <;> rfl

theorem tokens_interrupt (s : Session) : s.interrupt.2.tokens = s.tokens.interrupt := by
  unfold interrupt Tokens.interrupt Interrupter.interrupt
  cases ha : s.interrupter.armed with
  | none => simp [tokens, ha]
  | some k => simp [tokens, ha, map_cancelled_cancel]

theorem tokens_cancelAll (s : Session) : s.cancelAll.tokens =
    { s.tokens with session := true, turns := s.tokens.turns.map fun _ => true } := by
  have hturns : s.cancelAll.service.turns.map Turn.cancelled =
      (s.service.turns.map Turn.cancelled).map fun _ => true := by
    rw [List.map_map]
    exact List.map_map
  simp only [tokens, hturns]
  rfl

theorem tokens_interlude (s : Session) (x : Interlude) :
    (x.happening? s).toList.foldlM Tokens.happen s.tokens = some (s.interlude x).tokens := by
  cases x with
  | deleteSession id => rfl
  | interrupt =>
    have htokens : (s.interlude .interrupt).tokens = s.interrupt.2.tokens := rfl
    rw [htokens, tokens_interrupt]
    simp [Interlude.happening?, Tokens.happen, interrupt_fst, tokens]
  | cancel =>
    have htokens : (s.interlude .cancel).tokens = s.cancelAll.tokens := rfl
    rw [htokens, tokens_cancelAll]
    rfl

theorem tokens_interludes (s : Session) (xs : List Interlude) :
    (s.meanwhile xs).foldlM Tokens.happen s.tokens = some (xs.foldl interlude s).tokens := by
  induction xs generalizing s with
  | nil => rfl
  | cons x xs ih =>
    rw [meanwhile, List.foldlM_append, tokens_interlude]
    exact ih _

theorem tokens_signal (s : Session) (x : Signal) :
    (s.meanwhile [.ofSignal x]).foldlM Tokens.happen s.tokens = some (s.signal x).tokens := by
  rw [tokens_interludes]
  cases x with
  | interrupt => rfl
  | cancel => rfl

theorem tokens_took (hs : s.stage = .awaiting) (ht : Took s reading s') :
    ((turnLine? reading).map fun _ => Happening.armed s.service.turns.length).toList.foldlM
      Tokens.happen s.tokens = some s'.tokens := by
  cases ht with
  | «over» he =>
    rw [turnLine?_of_end he]
    simp [tokens, hs]
  | turn _ _ hline =>
    simp [hline, Tokens.happen, tokens, hs, beginTurn, ask]
  | settle _ hline hsettles =>
    rw [hline]
    simp [tokens, hsettles.interrupter_eq, hsettles.stage_eq, hsettles.cancelled_eq,
      hsettles.turns_eq]

theorem tokens_conclude (hs : s.stage = .inTurn k phase) (ending : Ending) (late : List Interlude) :
    (s.meanwhile late ++ [Happening.disarmed]).foldlM Tokens.happen s.tokens =
      some (s.concludeLate k ending late).tokens := by
  have hstage := (beside_interludes s late).stage_eq
  rw [List.foldlM_append, tokens_interludes]
  simp [Tokens.happen, tokens, hstage, hs, concludeLate, conclude, draw, Interrupter.disarm]

theorem concludeLate_nil (s : Session) (k : Nat) (ending : Ending) :
    s.concludeLate k ending [] = s.conclude k ending :=
  rfl

theorem tokens_loop (h : s.step .loop = some s') :
    (s.happenings (.move .loop)).foldlM Tokens.happen s.tokens = some s'.tokens := by
  cases does_of_step h with
  | leave hs hc => simp [happenings, hs, hc, tokens]
  | read hs hc =>
    have hprompted (rest : List Entry) : (s.prompted rest).tokens = s.tokens := rfl
    cases hi : s.input with
    | nil =>
      have hover : s.readLine.tokens = s.tokens := by simp [readLine, hi, take, tokens, hs]
      simp [happenings, hs, hc, hi, hover]
    | cons e rest =>
      have hbeside := beside_interludes (s.prompted rest) e.interludes
      have htook := take_took (e.interludes.foldl interlude (s.prompted rest)) e.reading
      have hlength : (e.interludes.foldl interlude (s.prompted rest)).service.turns.length =
          s.service.turns.length := by
        simpa [prompted] using congrArg List.length hbeside.core_eq
      have harmed := tokens_took (hbeside.stage_eq.trans hs) htook
      rw [hlength] at harmed
      simp only [happenings, hs, hc, hi]
      rw [List.foldlM_append, ← hprompted rest, tokens_interludes, readLine_eq hi]
      exact harmed
  | @turn k phase s' hs hmove =>
    cases hmove with
    | answered | opened | seeEnd => simp [happenings, hs, tokens, close]
    | @receive _ _ _ i sink shown failure =>
      obtain ⟨shown', failure', events, he⟩ := receive_eq
        { s with service := s.service.updateSink k fun _ => sink } k shown failure i
      rw [he]
      simp [happenings, hs, tokens, map_cancelled_updateSink]
    | @conclude ending =>
      rw [← concludeLate_nil, ← tokens_conclude hs]
      simp [happenings, hs, meanwhile]
  | beside hloop => exact absurd rfl hloop

theorem meanwhile_signal_congr (h : u.interrupter = s.interrupter) (x : Signal) :
    u.meanwhile [.ofSignal x] = s.meanwhile [.ofSignal x] := by
  cases x with
  | interrupt => simp [Interlude.ofSignal, meanwhile, Interlude.happening?, interrupt_fst, h]
  | cancel => rfl

theorem tokens_alarmStep (h : s.alarmStep = some s') :
    (s.happenings (.move .alarm)).foldlM Tokens.happen s.tokens = some s'.tokens := by
  obtain ⟨a, ha, rfl⟩ := eq_of_alarmStep h
  -- the signal is taken off the list first, which does nothing to the tokens
  let u : Session := { s with service := { s.service with alarms := s.service.alarms.erase a } }
  have hheard : s.happenings (.move .alarm) = u.meanwhile [.ofSignal a.2] := by
    simp only [happenings, ha]
    exact (meanwhile_signal_congr (s := s) (u := u) rfl a.2).symm
  rw [hheard]
  exact tokens_signal u a.2

theorem concluding_of_act {late : List Interlude} (h : s.act (.conclude late) = some s') :
    ∃ k ending, s.stage = .inTurn k (.closing ending) ∧
      (∃ u, s.turnStep k (.closing ending) = some u) ∧ s' = s.concludeLate k ending late := by
  simp only [act] at h
  split at h
  · next k ending hs =>
    obtain ⟨u, hu, he⟩ := Option.map_eq_some_iff.mp h
    exact ⟨k, ending, hs, ⟨u, hu⟩, he.symm⟩
  · cases h

theorem tokens_act (h : s.act a = some s') :
    (s.happenings a).foldlM Tokens.happen s.tokens = some s'.tokens := by
  cases a with
  | move m =>
    cases m with
    | loop => exact tokens_loop h
    | indicator =>
      obtain ⟨_, _, _, -, -, rfl⟩ := eq_of_indicatorStep h
      rfl
    | part k p =>
      obtain ⟨v, hv, rfl⟩ := Option.map_eq_some_iff.mp h
      simp [happenings, tokens, map_cancelled_of_step hv]
    | signal x =>
      obtain rfl := Option.some.inj h
      exact tokens_signal s x
    | alarm => exact tokens_alarmStep h
    | wait moment =>
      obtain rfl := eq_of_wait h
      rfl
  | conclude late =>
    obtain ⟨_, _, hs, -, rfl⟩ := concluding_of_act h
    exact tokens_conclude hs _ late

theorem beside_concludeLate (s : Session) (k : Nat) (ending : Ending) (late : List Interlude) :
    Beside (s.conclude k ending) (s.concludeLate k ending late) := by
  obtain ⟨-, -, -, -, -, -, hgenerator, hoptions, hbare, -, -, -, hcancelled⟩ :=
    beside_interludes s late
  exact ⟨rfl, rfl, rfl, rfl, rfl, rfl, hgenerator, hoptions, hbare, rfl, rfl, fun h => h,
    hcancelled⟩

theorem InHand.act (h : InHand n s) (ha : s.act a = some s') : InHand n s' := by
  cases a with
  | move m => exact h.does (does_of_step ha)
  | conclude late =>
    obtain ⟨k, ending, hs, ⟨u, hu⟩, rfl⟩ := concluding_of_act ha
    cases turnStep_eq_some_iff.mp hu with
    | conclude hended =>
      have hdoes : Does s .loop (s.conclude k ending) := .turn hs (.conclude hended)
      exact (h.does hdoes).beside (beside_concludeLate s k ending late)

structure Logged (t₀ : Tokens) (l : Session × List Happening) : Prop where
  told : t₀.Told l.2 l.1.tokens
  inHand : InHand t₀.turns.length l.1

theorem Logged.record {t₀ : Tokens} {l l' : Session × List Happening} (h : Logged t₀ l)
    (hl : record l a = some l') : Logged t₀ l' := by
  obtain ⟨s', ha, rfl⟩ := Option.map_eq_some_iff.mp hl
  exact ⟨h.told.run (tokens_act ha), h.inHand.act ha⟩

theorem stage_of_act (ha : s.act a = some s') (hs : s.stage = .inTurn k phase) :
    (∃ phase', s'.stage = .inTurn k phase') ∨ s'.stage = .awaiting := by
  cases a with
  | move m => exact (does_of_step ha).stage_of_inTurn hs
  | conclude late =>
    obtain ⟨_, _, -, -, rfl⟩ := concluding_of_act ha
    exact .inr rfl

/-- While no turn is under way an interrupt finds nothing, and does nothing. -/
theorem interrupt_of_unarmed (h : s.interrupter.armed = none) : s.interrupt = (false, s) := by
  obtain ⟨service, id, settings, streaming, input, cancelled, ⟨armed⟩, indicator, folder, turns,
    stage, events⟩ := s
  obtain rfl : armed = none := h
  rfl

theorem Logged.unarmed {t₀ : Tokens} {log : List Happening} (h : Logged t₀ (s, log))
    (hs : s.stage = .awaiting) : s.interrupter.armed = none := by
  cases ha : s.interrupter.armed with
  | none => rfl
  | some k =>
    have hwindow := (h.told.window k).mpr ((h.told.armed k).mp ha).toOpen
    simp [tokens, hs] at hwindow

section

variable {service : Service} {settings : Settings} {input : List Entry} {cancelled : Bool}
  {s₀ : Session}

theorem logged_new (hnew : Session.new service settings input cancelled = .ok s₀) :
    s₀.tokens.turns.length = service.turns.length ∧ s₀.tokens.session = cancelled ∧
      Logged s₀.tokens (s₀, []) := by
  have hinHand := inHand_new hnew
  obtain ⟨_, _, -, rfl⟩ := new_eq_ok_iff.mp hnew
  have hlength : (service.turns.map Turn.cancelled).length = service.turns.length := by simp
  exact ⟨hlength, rfl, .start rfl rfl, hlength ▸ hinHand⟩

/-- What interrupts do, told by the log of a session. Only a cancellation cancels the session. A turn
has one window, and it is open just as long as the session is in the turn. The token of a turn is
cancelled if the session is, or if an interrupt has fallen into its window; an interrupt finds a turn
just if it is the first in the window. Before and while a line is read an interrupt finds nothing and
changes nothing, and the line is read unless the session is cancelled. A turn leads back to the next
reading and to nothing else; and one that was interrupted can get there by itself, without another
signal. -/
theorem interrupts_hit_turn {service : Service} {settings : Settings} {input : List Entry}
    {cancelled : Bool} {s₀ s : Session} {acts : List Act} {log : List Happening}
    (hnew : Session.new service settings input cancelled = .ok s₀)
    (h : acts.foldlM record (s₀, []) = some (s, log)) :
    (s.cancelled = true ↔ cancelled = true ∨ .cancelled ∈ log) ∧
    (∀ before k after, log = before ++ .armed k :: after →
      service.turns.length ≤ k ∧ .armed k ∉ before) ∧
    (∀ k, Open log k ↔ ∃ phase, s.stage = .inTurn k phase) ∧
    (∀ k t, service.turns.length ≤ k → s.service.turns[k]? = some t →
      .armed k ∈ log ∧ (t.cancelled = true ↔ s.cancelled = true ∨ Hit log k)) ∧
    (∀ before found after, log = before ++ .interrupted found :: after →
      (found = true ↔ ∃ k, Fresh before k)) ∧
    (s.stage = .awaiting →
      (∀ (u : Session) (xs : List Interlude), u = s ∨ (∃ rest, u = s.prompted rest) →
        (xs.foldl interlude u).interrupt = (false, xs.foldl interlude u)) ∧
      (s.cancelled = false → s.step .loop = some s.readLine)) ∧
    ∀ k phase, s.stage = .inTurn k phase →
      (∀ a s', s.act a = some s' →
        (∃ phase', s'.stage = .inTurn k phase') ∨ s'.stage = .awaiting) ∧
      (Hit log k → ∃ s', GoesOn s s' ∧ s'.stage = .awaiting ∧
        (s.cancelled = false → s'.step .loop = some s'.readLine)) := by
  obtain ⟨hlength, hsession, hstart⟩ := logged_new hnew
  have hlogged : Logged s₀.tokens (s, log) := keeps_foldlM (fun _ h hl => h.record hl) h hstart
  have htold := hlogged.told
  refine ⟨hsession ▸ htold.session, ?_, ?_, ?_, htold.answers, ?_, ?_⟩
  · intro before k after he
    have hbegun := (htold.begun k).mp (by simp [he])
    exact ⟨hlength ▸ hbegun.1, htold.once before k after he⟩
  · intro k
    rw [← htold.window k]
    simp only [tokens]
    split
    · next hs => simp [hs]
    · next hnot => simpa using hnot k
  · intro k t hk ht
    have hlt : k < s.tokens.turns.length := by
      simpa [tokens] using (List.getElem?_eq_some_iff.mp ht).1
    exact ⟨(htold.begun k).mpr ⟨hlength ▸ hk, hlt⟩,
      htold.turns k t.cancelled (hlength ▸ hk) (by simp [tokens, ht])⟩
  · intro hs
    refine ⟨?_, loop_readLine hs⟩
    intro u xs hu
    have hunarmed : u.interrupter.armed = none := by
      rcases hu with rfl | ⟨rest, rfl⟩
      · exact hlogged.unarmed hs
      · exact hlogged.unarmed hs
    exact interrupt_of_unarmed ((beside_interludes u xs).unarmed hunarmed)
  · intro k phase hs
    refine ⟨fun a s' ha => stage_of_act ha hs, ?_⟩
    intro hhit
    have howns : Owns s₀.tokens.turns.length s.service.turns s.stage := hlogged.inHand.owns
    rw [hs] at howns
    obtain ⟨hown, -, -, t, ht, -⟩ := howns
    have hc : s.TurnCancelled k := by
      have htoken := htold.turns k t.cancelled hown (by simp [tokens, ht])
      simp [TurnCancelled, ht, htoken.mpr (.inr hhit)]
    obtain ⟨s', hgoes, hawaiting⟩ := (getsOn_cancelled _ k).turn_ends ⟨hlogged.inHand, hc⟩ hs
    refine ⟨s', hgoes, hawaiting, ?_⟩
    intro hongoing
    exact loop_readLine hawaiting (hgoes.cancelled_eq.trans hongoing)

/-- A turn that is interrupted twice, with an interrupt before it and one after it, and a turn whose
interrupt comes when its reply is recorded already. -/
theorem interrupts_hit_turn_late :
    let service : Service :=
      { archive := { clock := default }
        generator := { script := [{ whole := .silence, streamed := .error default },
          { whole := .reply "Hello", streamed := .error default }] } }
    let entry (text : String) : Entry :=
      { interludes := [.interrupt], reading := .ok (.line text) }
    let acts : List Act :=
      [.move .loop, .move (.part 0 .call), .move (.signal .interrupt), .move (.signal .interrupt),
        .move (.part 0 .call), .move (.part 0 .call), .move .loop, .move .indicator, .move .loop,
        .move (.signal .interrupt), .move .loop, .move (.part 1 .call), .move (.part 1 .call),
        .move (.part 1 .call), .move .loop, .move .indicator, .conclude [.interrupt]]
    let log : List Happening :=
      [.interrupted false, .armed 0, .interrupted true, .interrupted false, .disarmed,
        .interrupted false, .interrupted false, .armed 1, .interrupted true, .disarmed]
    ∃ s₀ s, Session.new service { streaming := false } [entry "Hi", entry "Hi again"] = .ok s₀ ∧
      acts.foldlM record (s₀, []) = some (s, log) ∧ s.stage = .awaiting ∧
      s.service.turns.map Turn.cancelled = [true, true] ∧ Hit log 0 ∧ Hit log 1 ∧
      s.interrupt = (false, s) ∧ s.step .loop = some s.readLine := by
  intro service entry acts log
  let opened :=
    (Session.new service { streaming := false } [entry "Hi", entry "Hi again"]).toOption
  let run := opened.bind fun s₀ => acts.foldlM record (s₀, [])
  obtain ⟨⟨s, logged⟩, hrun⟩ : ∃ l, run = some l := Option.isSome_iff_exists.mp (by decide +kernel)
  have hlogged : run.map (·.2) = some log := by decide +kernel
  have hs : run.map (·.1.stage) = some .awaiting := by decide +kernel
  have hongoing : run.map (·.1.cancelled) = some false := by decide +kernel
  have hturns : run.map (·.1.service.turns.map Turn.cancelled) = some [true, true] := by
    decide +kernel
  simp only [hrun, Option.map_some, Option.some.injEq] at hlogged hs hongoing hturns
  subst hlogged
  obtain ⟨s₀, hopened, hacts⟩ := Option.bind_eq_some_iff.mp hrun
  have hnew := toOption_eq_some_iff.mp hopened
  obtain ⟨-, -, -, htokens, -, hprompt, -⟩ := interrupts_hit_turn hnew hacts
  have hhit (k : Nat) (hk : [true, true][k]? = some true) : Hit log k := by
    rw [← hturns, List.getElem?_map, Option.map_eq_some_iff] at hk
    obtain ⟨t, ht, hct⟩ := hk
    exact ((htokens k t (Nat.zero_le k) ht).2.mp hct).resolve_left (by simp [hongoing])
  obtain ⟨hnothing, hreads⟩ := hprompt hs
  exact ⟨s₀, s, hnew, hacts, hs, hturns, hhit 0 rfl, hhit 1 rfl, hnothing s [] (.inl rfl),
    hreads hongoing⟩

end

end Session

end Parley
