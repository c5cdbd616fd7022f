import Parley.Proofs.Session.Onward
import Parley.Proofs.Session.Own
import Parley.Proofs.Turn.Request

/-! # What the lines ask for

The requests of a session are a fold over what it reads: a line that is neither blank nor a command
asks once, in the way that was switched on last. A log that runs along with a session keeps the
requests as its turns take them up, each with the archive of that moment, and the calls that the
generator sees of them.
-/

namespace Parley

namespace Session

/-- The requests that entries lead to, up to the first entry that ends the session. -/
def requests (id : SessionId) (streaming : Bool) : List Entry → List Request
  | [] => []
  | e :: rest =>
    match endOf? e.reading with
    | some _ => []
    | none =>
      match turnLine? e.reading with
      | some text =>
        { session := id, delivery := if streaming then .streaming else .blocking, text } ::
          requests id streaming rest
      | none => requests id (streamingAfter streaming e.reading) rest

def resultOf : List Entry → Except Error Unit
  | [] => .error (Reading.asInputError Reading.endOfInput)
  | e :: rest => (endOf? e.reading).getD (resultOf rest)

def NoneEnds (entries : List Entry) : Prop :=
  ∀ e ∈ entries, endOf? e.reading = none

def streamingAt (streaming : Bool) (entries : List Entry) : Bool :=
  entries.foldl (fun b e => streamingAfter b e.reading) streaming

variable {id : SessionId} {streaming : Bool} {read rest input : List Entry} {e : Entry}
  {result : Except Error Unit} {text : String}

theorem streamingAfter_of_turnLine {reading : Except Error Reading}
    (h : turnLine? reading = some text) : streamingAfter streaming reading = streaming := by
  rw [streamingAfter, command?_of_turnLine h]

theorem requests_append (h : NoneEnds read) : requests id streaming (read ++ rest) =
    requests id streaming read ++ requests id (streamingAt streaming read) rest := by
  induction read generalizing streaming with
  | nil => rfl
  | cons e read ih =>
    have he := h e List.mem_cons_self
    have hrest : NoneEnds read := fun e' he' => h e' (List.mem_cons_of_mem e he')
    simp only [List.cons_append, requests, he, streamingAt, List.foldl_cons]
    cases ht : turnLine? e.reading with
    | some text =>
      rw [streamingAfter_of_turnLine ht]
      exact congrArg _ (ih hrest)
    | none => exact ih hrest

theorem requests_of_end (h : NoneEnds read) (he : endOf? e.reading = some result) :
    requests id streaming (read ++ e :: rest) = requests id streaming read := by
  rw [requests_append h, requests, he, List.append_nil]

theorem resultOf_append (h : NoneEnds read) : resultOf (read ++ rest) = resultOf rest := by
  induction read with
  | nil => rfl
  | cons e read ih =>
    rw [List.cons_append, resultOf, h e List.mem_cons_self]
    exact ih fun e' he' => h e' (List.mem_cons_of_mem e he')

theorem noneEnds_concat (h : NoneEnds read) (he : endOf? e.reading = none) :
    NoneEnds (read ++ [e]) := by
  intro e' he'
  rcases List.mem_append.mp he' with he' | he'
  · exact h e' he'
  · rw [List.mem_singleton.mp he']
    exact he

theorem isInput_asInputError (e : Error) : (Reading.asInputError e).isInput = true := by
  rw [Reading.asInputError]
  split
  · assumption
  · rfl

theorem endOf?_eq_ok_iff {reading : Except Error Reading} :
    endOf? reading = some (.ok ()) ↔ command? reading = some .exit := by
  cases reading with
  | error => simp [endOf?, command?]
  | ok reading =>
    rw [endOf?]
    split
    · next hc => simp [hc]
    · next hc => simp [hc]

theorem isInput_of_end {reading : Except Error Reading} {e : Error}
    (h : endOf? reading = some (.error e)) : e.isInput = true := by
  cases reading with
  | error e' =>
    obtain rfl := Except.error.inj (Option.some.inj h)
    exact isInput_asInputError e'
  | ok reading =>
    simp only [endOf?] at h
    split at h
    · cases h
    · cases h

def request? (s : Session) (k : Nat) : Option Request :=
  s.service.turns[k]?.bind Turn.request?

/-- What the turn under way is still to ask for. -/
def pending (s : Session) : List Request :=
  match s.stage with
  | .inTurn k _ => (s.request? k).toList
  | _ => []

/-- The request that a move takes up, with the archive of that moment. The turns of the session are
those from the number `n` on. -/
def taken (n : Nat) (s : Session) : Move → List (Request × Archive)
  | .part k .call => if n ≤ k then (s.request? k).toList.map (·, s.service.archive) else []
  | _ => []

def called (n : Nat) (s : Session) (m : Move) (s' : Session) : List Call :=
  let calls := s'.service.generator.calls.drop s.service.generator.calls.length
  match m with
  | .part k _ => if n ≤ k then calls else []
  | _ => calls

/-- Whether the session finds itself cancelled before it reads. -/
def findsCancelled (s : Session) : Move → Bool
  | .loop =>
    match s.stage with
    | .awaiting => s.cancelled
    | _ => false
  | _ => false

/-- A session with what it asked for so far. -/
structure Log where
  session : Session
  asked : List (Request × Archive) := []
  calls : List Call := []
  found : Bool := false

def Log.add (n : Nat) (l : Log) (m : Move) (s : Session) : Log where
  session := s
  asked := l.asked ++ l.session.taken n m
  calls := l.calls ++ l.session.called n m s
  found := l.found || l.session.findsCancelled m

def Log.step (n : Nat) (l : Log) (m : Move) : Option Log :=
  (l.session.step m).map (l.add n m)

variable {n k : Nat} {s s' s₀ : Session} {m : Move} {phase : Phase} {l l' : Log} {options : Options}

theorem map_session_run (l : Log) (moves : List Move) :
    (moves.foldlM (Log.step n) l).map Log.session = moves.foldlM Session.step l.session := by
  refine map_foldlM (fun l m => ?_) l moves
  rw [Log.step, Option.map_map]
  exact Option.map_id'

/-- What a move takes up was pending, and the generator sees what comes of it. -/
structure TakesUp (n : Nat) (s : Session) (m : Move) (s' : Session) : Prop where
  pending_eq : (s.taken n m).map Prod.fst ++ s'.pending = s.pending
  called_eq : s.called n m s' =
    (s.taken n m).filterMap fun x => x.1.call? s.service.options.context x.2

theorem request?_of_isOver {t : Turn} (h : t.stage.IsOver) : t.request? = none := by
  rw [Turn.request?]
  split
  · next hs =>
    rw [hs] at h
    exact absurd h (by simp [Turn.Stage.IsOver])
  · rfl

theorem taken_eq_nil (hm : ∀ k p, m ≠ .part k p) : s.taken n m = [] := by
  cases m with
  | part k p => exact absurd rfl (hm k p)
  | _ => rfl

theorem called_eq_nil (hm : ∀ k p, m ≠ .part k p)
    (hg : s'.service.generator = s.service.generator) : s.called n m s' = [] := by
  cases m with
  | part k p => exact absurd rfl (hm k p)
  | _ => simp [called, hg]

theorem TakesUp.of_pending_eq (hm : ∀ k p, m ≠ .part k p)
    (hg : s'.service.generator = s.service.generator) (hp : s'.pending = s.pending) :
    TakesUp n s m s' := by
  refine ⟨?_, ?_⟩
  · rw [taken_eq_nil hm]
    exact hp
  · rw [called_eq_nil hm hg, taken_eq_nil hm]
    rfl

theorem Beside.request?_eq (h : Beside s s') (k : Nat) : s'.request? k = s.request? k := by
  have hbare (s : Session) :
      s.request? k = (s.service.turns.map Turn.bare)[k]?.bind Turn.request? := by
    rw [request?, List.getElem?_map, Option.bind_map]
    rfl
  rw [hbare, hbare, h.bare_eq]

theorem takesUp_of_beside (hm : ∀ k p, m ≠ .part k p) (h : Beside s s') : TakesUp n s m s' := by
  refine .of_pending_eq hm h.generator_eq ?_
  simp only [pending, h.stage_eq]
  split
  · rw [h.request?_eq]
  · rfl

theorem Owns.request?_eq_none (h : Owns n s.service.turns s.stage) (hn : n ≤ k)
    (hk : ∀ phase, s.stage ≠ .inTurn k phase) : s.request? k = none := by
  rw [request?, Option.bind_eq_none_iff]
  intro t ht
  cases hs : s.stage with
  | awaiting | «over» =>
    rw [hs] at h
    exact request?_of_isOver (h.2 k t hn (by simp) ht)
  | inTurn j phase =>
    rw [hs] at h
    refine request?_of_isOver (h.others k t hn ?_ ht)
    rintro hj
    exact hk phase (Option.some.inj hj ▸ hs)

theorem pending_eq_of_request? (hs : s'.stage = s.stage)
    (hk : ∀ k phase, s.stage = .inTurn k phase → s'.request? k = s.request? k) :
    s'.pending = s.pending := by
  rw [pending, pending, hs]
  split
  · next k phase hstage => rw [hk k phase hstage]
  · rfl

theorem pending_of_inTurn (hs : s.stage = .inTurn k phase) : s.pending = (s.request? k).toList := by
  rw [pending, hs]

/-- After its part has been called a turn has nothing more to ask for. -/
theorem request?_of_part {p : Turn.Part} {v : Service} (hv : s.service.step k p = some v)
    (j : Nat) :
    request? { s with service := v } j = if j = k then none else s.request? j := by
  obtain ⟨t, t', v', ht, hstep, hv'⟩ := Service.step_eq_some_iff.mp hv
  obtain ⟨hafter, -, -⟩ := Service.turnStep_request hstep
  by_cases hj : j = k
  · have hk : k < s.service.turns.length := (List.getElem?_eq_some_iff.mp ht).1
    simp [request?, hv', hj, hk, hafter]
  · rw [if_neg hj]
    simp only [request?, hv', List.getElem?_set_ne (Ne.symm hj)]

theorem pending_of_part {p : Turn.Part} {v : Service} (hv : s.service.step k p = some v)
    (hk : ∀ phase, s.stage ≠ .inTurn k phase) : pending { s with service := v } = s.pending := by
  refine pending_eq_of_request? rfl fun j phase hs => ?_
  rw [request?_of_part hv, if_neg]
  rintro rfl
  exact hk phase hs

theorem taken_of_part {p : Turn.Part} {v : Service} (hv : s.service.step k p = some v)
    (hn : n ≤ k) :
    s.taken n (.part k p) = (s.request? k).toList.map (·, s.service.archive) := by
  obtain ⟨t, t', v', ht, hstep, -⟩ := Service.step_eq_some_iff.mp hv
  obtain ⟨-, hother, -⟩ := Service.turnStep_request hstep
  have hbefore : s.request? k = t.request? := by rw [request?, ht, Option.bind_some]
  cases p with
  | call => rw [taken, if_pos hn]
  | feed | relay =>
    rw [hbefore, hother (by simp)]
    rfl

theorem called_of_part {p : Turn.Part} {v : Service} (hv : s.service.step k p = some v)
    (hn : n ≤ k) :
    s.called n (.part k p) { s with service := v } =
      ((s.request? k).bind (·.call? s.service.options.context s.service.archive)).toList := by
  obtain ⟨t, t', v', ht, hstep, hv'⟩ := Service.step_eq_some_iff.mp hv
  obtain ⟨-, -, hcalls⟩ := Service.turnStep_request hstep
  have hbefore : s.request? k = t.request? := by rw [request?, ht, Option.bind_some]
  simp only [called, if_pos hn, hv', hcalls, List.drop_left, hbefore]

theorem takesUp_of_ownPart {p : Turn.Part} {v : Service} (h : Owns n s.service.turns s.stage)
    (hv : s.service.step k p = some v) (hn : n ≤ k) :
    TakesUp n s (.part k p) { s with service := v } := by
  have htaken := taken_of_part hv hn
  refine ⟨?_, ?_⟩
  · rw [htaken, List.map_map]
    by_cases hcurrent : ∃ phase, s.stage = .inTurn k phase
    · obtain ⟨phase, hs⟩ := hcurrent
      have hstage : Session.stage { s with service := v } = .inTurn k phase := hs
      rw [pending_of_inTurn hs, pending_of_inTurn hstage, request?_of_part hv, if_pos rfl]
      cases s.request? k <;> rfl
    · rw [not_exists] at hcurrent
      rw [h.request?_eq_none hn hcurrent]
      exact pending_of_part hv hcurrent
  · rw [called_of_part hv hn, htaken]
    cases s.request? k with
    | none => rfl
    | some r => cases hr : r.call? s.service.options.context s.service.archive <;> simp [hr]

/-- A turn that began before the session is none of its concern. -/
theorem takesUp_of_otherPart {p : Turn.Part} {v : Service} (h : Owns n s.service.turns s.stage)
    (hv : s.service.step k p = some v) (hn : ¬ n ≤ k) :
    TakesUp n s (.part k p) { s with service := v } := by
  have htaken : s.taken n (.part k p) = [] := by
    cases p with
    | call => exact if_neg hn
    | feed | relay => rfl
  refine ⟨?_, ?_⟩
  · rw [htaken]
    refine pending_of_part hv fun phase hs => ?_
    rw [hs] at h
    exact hn h.own
  · rw [htaken, called, if_neg hn]
    rfl

theorem takesUp_of_part {p : Turn.Part} {v : Service} (h : Owns n s.service.turns s.stage)
    (hv : s.service.step k p = some v) : TakesUp n s (.part k p) { s with service := v } := by
  by_cases hn : n ≤ k
  · exact takesUp_of_ownPart h hv hn
  · exact takesUp_of_otherPart h hv hn

theorem takesUp_of_turn (h : Owns n s.service.turns (.inTurn k phase))
    (hs : s.stage = .inTurn k phase) (hm : TurnMove s k phase s') : TakesUp n s .loop s' := by
  have hpending := pending_of_inTurn hs
  cases hm with
  | answered | opened | seeEnd => exact .of_pending_eq (by simp) rfl hpending.symm
  | @receive t feed relay i sink shown failure ht hstreaming =>
    obtain ⟨shown', failure', events, he⟩ := receive_eq
      { s with service := s.service.updateSink k fun _ => sink } k shown failure i
    rw [he]
    refine .of_pending_eq (by simp) rfl ?_
    rw [hpending]
    simp [pending, request?, Service.updateSink, Service.update, ht, Turn.request?, hstreaming]
  | conclude =>
    refine .of_pending_eq (by simp) rfl ?_
    obtain ⟨-, -, -, t, ht, hsuits, -⟩ := h
    rw [hpending, request?, ht, Option.bind_some, request?_of_isOver hsuits]
    rfl

/-- How a session came to its end with what it has read and what is left, and whether it was found
cancelled. -/
inductive Finish (read rest : List Entry) : Bool → Except Error Unit → Prop where

  | found : NoneEnds read → Finish read rest true (.ok ())

  | read {before : List Entry} {e : Entry} {result : Except Error Unit} : read = before ++ [e] →
      NoneEnds before → endOf? e.reading = some result → Finish read rest false result

  | exhausted : NoneEnds read → rest = [] →
      Finish read rest false (.error (Reading.asInputError Reading.endOfInput))

theorem NoneEnds.subset {entries : List Entry} (h : NoneEnds read) (hs : entries ⊆ read) :
    NoneEnds entries :=
  fun e he => h e (hs he)

theorem NoneEnds.not_exit (h : NoneEnds read) : ¬ ∃ e ∈ read, command? e.reading = some .exit := by
  rintro ⟨e, he, hexit⟩
  have hend := endOf?_eq_ok_iff.mpr hexit
  rw [h e he] at hend
  cases hend

namespace Finish

variable {found : Bool}

theorem only_last (h : Finish read rest found result) : NoneEnds read.dropLast := by
  cases h with
  | found hnone | exhausted hnone => exact hnone.subset (List.dropLast_subset read)
  | read hread hnone =>
    rw [hread, List.dropLast_concat]
    exact hnone

theorem ok_iff (h : Finish read rest found result) :
    result = .ok () ↔ found = true ∨ ∃ e ∈ read, command? e.reading = some .exit := by
  cases h with
  | found => simp
  | @read before e _ hread hnone hend =>
    constructor
    · rintro rfl
      exact .inr ⟨e, by simp [hread], endOf?_eq_ok_iff.mp hend⟩
    · rintro (hfound | ⟨e', he', hexit⟩)
      · cases hfound
      · rw [hread, List.mem_append, List.mem_singleton] at he'
        rcases he' with he' | rfl
        · exact absurd ⟨e', he', hexit⟩ hnone.not_exit
        · exact Option.some.inj (hend.symm.trans (endOf?_eq_ok_iff.mpr hexit))
  | exhausted hnone => simp [hnone.not_exit]

theorem fails (h : Finish read rest found result) (hne : result ≠ .ok ()) :
    ∃ e : Error, result = .error e ∧ e.isInput = true := by
  cases h with
  | found => exact absurd rfl hne
  | read _ _ hend =>
    cases result with
    | ok => exact absurd rfl hne
    | error e => exact ⟨e, rfl, isInput_of_end hend⟩
  | exhausted => exact ⟨_, rfl, isInput_asInputError _⟩

theorem not_found (h : Finish read rest false result) : result = resultOf (read ++ rest) ∧
    requests id streaming read = requests id streaming (read ++ rest) := by
  cases h with
  | @read before e _ hread hnone hend =>
    rw [hread, List.append_assoc, resultOf_append hnone, requests_of_end hnone hend]
    exact ⟨by simp [resultOf, hend], (requests_of_end hnone hend).symm⟩
  | exhausted hnone hrest =>
    rw [hrest, resultOf_append hnone, List.append_nil]
    exact ⟨rfl, rfl⟩

end Finish

def Log.Reaches (streaming : Bool) (read : List Entry) (l : Log) : Stage → Prop
  | .over result => Finish read l.session.input l.found result
  | _ => l.found = false ∧ NoneEnds read ∧ l.session.streaming = streamingAt streaming read

structure Log.Keeps (n : Nat) (options : Options) (streaming : Bool) (id : SessionId)
    (input read : List Entry) (l : Log) : Prop where
  input_eq : input = read ++ l.session.input
  id_eq : l.session.id = id
  options_eq : l.session.service.options = options
  owns : Owns n l.session.service.turns l.session.stage
  asked_eq : l.asked.map Prod.fst ++ l.session.pending = requests id streaming read
  calls_eq : l.calls = l.asked.filterMap fun x => x.1.call? options.context x.2
  reaches : l.Reaches streaming read l.session.stage

structure Still (s s' : Session) : Prop where
  input_eq : s'.input = s.input
  id_eq : s'.id = s.id
  options_eq : s'.service.options = s.service.options
  streaming_eq : s'.streaming = s.streaming
  over_iff : ∀ result, s'.stage = .over result ↔ s.stage = .over result

theorem still_of_turn (hs : s.stage = .inTurn k phase) (hm : TurnMove s k phase s') :
    Still s s' := by
  cases hm with
  | @receive _ _ _ i sink shown failure =>
    obtain ⟨shown', failure', events, he⟩ := receive_eq
      { s with service := s.service.updateSink k fun _ => sink } k shown failure i
    rw [he]
    exact ⟨rfl, rfl, rfl, rfl, by simp [hs]⟩
  | _ => exact ⟨rfl, rfl, rfl, rfl, by simp [hs, close, conclude, draw]⟩

theorem Log.Reaches.still {stage stage' : Stage} (h : l.Reaches streaming read stage)
    (hstill : Still l.session l'.session) (hfound : l'.found = l.found)
    (hover : ∀ result, stage' = .over result ↔ stage = .over result) :
    l'.Reaches streaming read stage' := by
  cases stage with
  | «over» result =>
    rw [(hover result).mpr rfl, Reaches, hfound, hstill.input_eq]
    exact h
  | awaiting | inTurn =>
    have hgoes : l'.found = false ∧ NoneEnds read ∧
        l'.session.streaming = streamingAt streaming read :=
      ⟨hfound.trans h.1, h.2.1, hstill.streaming_eq.trans h.2.2⟩
    cases stage' with
    | «over» result => exact absurd ((hover result).mp rfl) (by simp)
    | awaiting | inTurn => exact hgoes

theorem Log.Keeps.ask (h : l.Keeps n options streaming id input read)
    (htakes : TakesUp n l.session m s') :
    (l.add n m s').asked.map Prod.fst ++ s'.pending = requests id streaming read ∧
      (l.add n m s').calls =
        (l.add n m s').asked.filterMap fun x => x.1.call? options.context x.2 := by
  constructor
  · rw [add, List.map_append, List.append_assoc, htakes.pending_eq]
    exact h.asked_eq
  · rw [add, List.filterMap_append, htakes.called_eq, h.calls_eq, h.options_eq]

theorem Log.Keeps.still (h : l.Keeps n options streaming id input read) (hd : Does l.session m s')
    (hstill : Still l.session s') (htakes : TakesUp n l.session m s')
    (hfinds : l.session.findsCancelled m = false) :
    (l.add n m s').Keeps n options streaming id input read := by
  obtain ⟨hasked, hcalls⟩ := h.ask htakes
  refine ⟨?_, hstill.id_eq.trans h.id_eq, hstill.options_eq.trans h.options_eq, h.owns.does hd,
    hasked, hcalls, h.reaches.still hstill ?_ hstill.over_iff⟩
  · exact h.input_eq.trans (congrArg _ hstill.input_eq.symm)
  · rw [add, hfinds, Bool.or_false]

theorem Log.Keeps.of_awaiting (h : l.Keeps n options streaming id input read)
    (hs : l.session.stage = .awaiting) :
    l.found = false ∧ NoneEnds read ∧ l.session.streaming = streamingAt streaming read := by
  have hreaches := h.reaches
  rwa [hs] at hreaches

theorem Log.Keeps.finish (h : l.Keeps n options streaming id input read)
    (hs : l.session.stage = .awaiting) (hs' : s'.stage = .over result)
    (hid : s'.id = l.session.id) (hservice : s'.service = l.session.service)
    (hinput : s'.input = l.session.input)
    (hfinish : Finish read s'.input (l.add n .loop s').found result) :
    (l.add n .loop s').Keeps n options streaming id input read := by
  have hpending : s'.pending = l.session.pending := by rw [pending, pending, hs, hs']
  obtain ⟨hasked, hcalls⟩ := h.ask
    (.of_pending_eq (m := .loop) (by simp) (by rw [hservice]) hpending)
  refine ⟨?_, hid.trans h.id_eq, hservice ▸ h.options_eq, ?_, hasked, hcalls, ?_⟩
  · exact h.input_eq.trans (congrArg _ hinput.symm)
  · have howns := h.owns
    rw [hs] at howns
    change Owns n s'.service.turns s'.stage
    rw [hs', hservice]
    exact howns
  · change Reaches _ _ _ s'.stage
    rw [hs']
    exact hfinish

theorem Log.Keeps.took {s₁ : Session} (h : l.Keeps n options streaming id input read)
    (hs : l.session.stage = .awaiting) (hc : l.session.cancelled = false)
    (hinput : l.session.input = e :: rest) (hb : Beside (l.session.prompted rest) s₁)
    (ht : Took s₁ e.reading s') (howns : Owns n s'.service.turns s'.stage) :
    (l.add n .loop s').Keeps n options streaming id input (read ++ [e]) := by
  obtain ⟨hfound, hnone, hstreaming⟩ := h.of_awaiting hs
  have hasked : l.asked.map Prod.fst = requests id streaming read := by
    have hasked := h.asked_eq
    rwa [pending, hs, List.append_nil] at hasked
  have hadded : (l.add n .loop s').asked = l.asked := List.append_nil l.asked
  have hcalls (hg : s'.service.generator = l.session.service.generator) :
      (l.add n .loop s').calls =
        (l.add n .loop s').asked.filterMap fun x => x.1.call? options.context x.2 := by
    rw [hadded, add, called_eq_nil (by simp) hg, List.append_nil]
    exact h.calls_eq
  have hfound' : (l.add n .loop s').found = false := by simp [add, findsCancelled, hs, hc, hfound]
  have hread : input = (read ++ [e]) ++ s₁.input := by
    rw [h.input_eq, hinput, hb.input_eq]
    simp [prompted]
  have hid : s₁.id = id := hb.id_eq.trans h.id_eq
  have hmode : s₁.streaming = streamingAt streaming read := hb.streaming_eq.trans hstreaming
  have hrequests : requests id streaming (read ++ [e]) =
      requests id streaming read ++ requests id (streamingAt streaming read) [e] :=
    requests_append hnone
  have hlast : streamingAt streaming (read ++ [e]) =
      streamingAfter (streamingAt streaming read) e.reading := by
    simp [streamingAt]
  cases ht with
  | @«over» result hend =>
    refine ⟨hread, hid, hb.options_eq.trans h.options_eq, howns, ?_, hcalls hb.generator_eq, ?_⟩
    · rw [hadded, hasked, requests_of_end hnone hend]
      exact List.append_nil _
    · change Finish (read ++ [e]) s₁.input (l.add n .loop _).found result
      rw [hfound']
      exact .read rfl hnone hend
  | @turn text hend hcommand hline =>
    refine ⟨hread, hid, hb.options_eq.trans h.options_eq, howns, ?_, hcalls hb.generator_eq,
      hfound', noneEnds_concat hnone hend, ?_⟩
    · rw [hadded, hasked, hrequests, requests, hend, hline, ← hid, ← hmode]
      simp [add, pending, request?, beginTurn, Service.ask, Turn.request?, requests]
    · rw [hlast, streamingAfter_of_turnLine hline]
      exact hmode
  | settle hend hline hsettles =>
    have hstage : s'.stage = .awaiting :=
      hsettles.stage_eq.trans (hb.stage_eq.trans hs)
    refine ⟨hsettles.input_eq ▸ hread, hsettles.id_eq.trans hid,
      hsettles.options_eq.trans (hb.options_eq.trans h.options_eq), howns, ?_,
      hcalls (hsettles.generator_eq.trans hb.generator_eq), ?_⟩
    · rw [hadded, hasked, hrequests, requests, hend, hline]
      simp [add, pending, hstage, requests]
    · change Reaches _ _ _ s'.stage
      rw [hstage]
      refine ⟨hfound', noneEnds_concat hnone hend, ?_⟩
      rw [hlast, ← hmode]
      exact hsettles.streaming_eq

theorem Log.Keeps.step (h : l.Keeps n options streaming id input read)
    (hm : l.step n m = some l') : ∃ read', l'.Keeps n options streaming id input read' := by
  obtain ⟨s', hs', rfl⟩ := Option.map_eq_some_iff.mp hm
  have hd := does_of_step hs'
  have howns := h.owns.does hd
  cases hd with
  | leave hs hc =>
    have hfound : (l.add n .loop { l.session with stage := .over (.ok ()) }).found = true := by
      simp [add, findsCancelled, hs, hc]
    refine ⟨read, h.finish hs rfl rfl rfl rfl ?_⟩
    rw [hfound]
    exact .found (h.of_awaiting hs).2.1
  | read hs hc =>
    rcases readLine_took l.session with ⟨hinput, he⟩ | ⟨e, rest, s₁, hinput, hbeside, htook⟩
    · rw [he]
      have hfound (s' : Session) : (l.add n .loop s').found = false := by
        simp [add, findsCancelled, hs, hc, (h.of_awaiting hs).1]
      refine ⟨read, h.finish hs rfl rfl rfl hinput.symm ?_⟩
      rw [hfound]
      exact .exhausted (h.of_awaiting hs).2.1 rfl
    · exact ⟨read ++ [e], h.took hs hc hinput hbeside htook howns⟩
  | turn hs hmove =>
    refine ⟨read, h.still (.turn hs hmove) (still_of_turn hs hmove) ?_ (by simp [findsCancelled, hs])⟩
    exact takesUp_of_turn (hs ▸ h.owns) hs hmove
  | part hv =>
    have hoptions := Service.onward_of_step hv
    refine ⟨read, h.still (.part hv) ⟨rfl, rfl, hoptions.options, rfl, fun _ => .rfl⟩
      (takesUp_of_part h.owns hv) rfl⟩
  | indicator hi hstep =>
    exact ⟨read, h.still (.indicator hi hstep) ⟨rfl, rfl, rfl, rfl, fun _ => .rfl⟩
      (.of_pending_eq (by simp) rfl rfl) rfl⟩
  | beside hloop hpart hbeside =>
    refine ⟨read, h.still (.beside hloop hpart hbeside) ⟨hbeside.input_eq, hbeside.id_eq,
      hbeside.options_eq, hbeside.streaming_eq, fun result => by rw [hbeside.stage_eq]⟩
      (takesUp_of_beside hpart hbeside) ?_⟩
    cases m <;> first | rfl | exact absurd rfl hloop

/-- What a log tells of the entries that its session has read. -/
structure Log.Tells (context : ContextPolicy) (streaming : Bool) (id : SessionId)
    (input read : List Entry) (l : Log) : Prop where
  input_eq : input = read ++ l.session.input
  asked_prefix : l.asked.map Prod.fst <+: requests id streaming read
  /-- Between two turns everything has been asked that the entries lead to. -/
  asked_eq : (∀ k phase, l.session.stage ≠ .inTurn k phase) →
    l.asked.map Prod.fst = requests id streaming read
  calls_eq : l.calls = l.asked.filterMap fun x => x.1.call? context x.2
  only_last : NoneEnds read.dropLast
  ends_well_iff : l.session.stage = .over (.ok ()) ↔
    l.found = true ∨ ∃ e ∈ read, command? e.reading = some .exit
  fails : ∀ result, l.session.stage = .over result → result ≠ .ok () →
    ∃ e : Error, result = .error e ∧ e.isInput = true
  /-- A session that is not found cancelled ends as its input says, having asked all it says. -/
  not_found : ∀ result, l.session.stage = .over result → l.found = false →
    result = resultOf input ∧ l.asked.map Prod.fst = requests id streaming input

theorem Log.Keeps.tells (h : l.Keeps n options streaming id input read) :
    l.Tells options.context streaming id input read := by
  have hasked : (∀ k phase, l.session.stage ≠ .inTurn k phase) →
      l.asked.map Prod.fst = requests id streaming read := by
    intro hk
    have hpending : l.session.pending = [] := by
      rw [pending]
      split
      · next k phase hs => exact absurd hs (hk k phase)
      · rfl
    rw [← h.asked_eq, hpending, List.append_nil]
  have hover (result : Except Error Unit) (hs : l.session.stage = .over result) :
      Finish read l.session.input l.found result := by
    have hreaches := h.reaches
    rwa [hs] at hreaches
  have hgoing (hs : ∀ result, l.session.stage ≠ .over result) : l.found = false ∧ NoneEnds read := by
    have hreaches := h.reaches
    cases hstage : l.session.stage with
    | «over» result => exact absurd hstage (hs result)
    | awaiting | inTurn =>
      rw [hstage] at hreaches
      exact ⟨hreaches.1, hreaches.2.1⟩
  have hcases : (∃ result, l.session.stage = .over result) ∨
      ∀ result, l.session.stage ≠ .over result := by
    rw [← not_exists]
    exact Classical.em _
  refine ⟨h.input_eq, ⟨_, h.asked_eq⟩, hasked, h.calls_eq, ?_, ?_, ?_, ?_⟩
  · rcases hcases with ⟨result, hs⟩ | hs
    · exact (hover result hs).only_last
    · exact (hgoing hs).2.subset (List.dropLast_subset read)
  · rcases hcases with ⟨result, hs⟩ | hs
    · rw [hs, ← (hover result hs).ok_iff]
      exact ⟨fun he => Stage.over.inj he, fun he => he ▸ rfl⟩
    · obtain ⟨hfound, hnone⟩ := hgoing hs
      simp [hs, hfound, hnone.not_exit]
  · exact fun result hs => (hover result hs).fails
  · intro result hs hfound
    have hfinish := hover result hs
    rw [hfound] at hfinish
    rw [hasked (by simp [hs]), h.input_eq]
    exact hfinish.not_found

theorem over_of_does (hd : Does s m s') (hs : s.stage = .over result) :
    s'.stage = .over result := by
  cases hd with
  | leave hs' | read hs' | turn hs' => exact absurd (hs.symm.trans hs') (by simp)
  | part | indicator => exact hs
  | beside _ _ hbeside => exact hbeside.stage_eq.trans hs

theorem not_over_of_inTurn (hd : Does s m s') (hs : s.stage = .inTurn k phase)
    (result : Except Error Unit) : s'.stage ≠ .over result := by
  rcases hd.stage_of_inTurn hs with ⟨phase', hs'⟩ | hs'
  · simp [hs']
  · simp [hs']

theorem prompts_of_does (hd : Does s m s') (hs : s.stage = .awaiting → s.cancelled = true) :
    s'.prompts = s.prompts ∧ s'.input = s.input := by
  cases hd with
  | leave | part => exact ⟨rfl, rfl⟩
  | read hs' hc => exact absurd (hc.symm.trans (hs hs')) (by simp)
  | turn _ hmove =>
    cases hmove with
    | answered | opened | seeEnd => exact ⟨rfl, rfl⟩
    | receive =>
      rw [Session.receive]
      split
      · exact ⟨rfl, rfl⟩
      · split
        · exact ⟨rfl, rfl⟩
        · exact ⟨prompts_draw .., rfl⟩
    | conclude => exact ⟨prompts_draw .., rfl⟩
  | indicator => exact ⟨prompts_draw .., rfl⟩
  | beside _ _ hbeside => exact ⟨hbeside.prompts_eq, hbeside.input_eq⟩

theorem Leads.reads_no_more (h : s.Leads s')
    (hs : s.cancelled = true ∨ ∃ result, s.stage = .over result) :
    s'.prompts = s.prompts ∧ s'.input = s.input := by
  have hkept := h.keeps (P := fun u => (u.cancelled = true ∨ ∃ result, u.stage = .over result) ∧
    u.prompts = s.prompts ∧ u.input = s.input) ?_ ⟨hs, rfl, rfl⟩
  · exact hkept.2
  · rintro u v m ⟨hu, hprompts, hinput⟩ hm
    have hd := does_of_step hm
    obtain ⟨hprompts', hinput'⟩ := prompts_of_does hd fun hawaiting => by
      rcases hu with hc | ⟨result, hover⟩
      · exact hc
      · exact absurd (hawaiting.symm.trans hover) (by simp)
    refine ⟨?_, hprompts'.trans hprompts, hinput'.trans hinput⟩
    rcases hu with hc | ⟨result, hover⟩
    · exact .inl ((onward_step hm).cancelled hc)
    · exact .inr ⟨result, over_of_does hd hover⟩

theorem Took.idle {reading : Except Error Reading} (h : Took s reading s')
    (hline : turnLine? reading = none) :
    s'.service.generator = s.service.generator ∧ s'.service.turns = s.service.turns ∧
      ∀ id, s'.service.archive.find? id = s.service.archive.find? id := by
  cases h with
  | «over» => exact ⟨rfl, rfl, fun _ => rfl⟩
  | turn _ _ hturn => exact absurd (hline.symm.trans hturn) (by simp)
  | settle _ _ hsettles => exact ⟨hsettles.generator_eq, hsettles.turns_eq, hsettles.find?_eq⟩

theorem idle_reading (hs : s.stage = .awaiting) (hc : s.cancelled = false)
    (hinput : s.input = e :: rest) (hline : turnLine? e.reading = none)
    (hm : s.step .loop = some s') :
    s'.service.generator = s.service.generator ∧
      s'.service.turns.map Turn.bare = s.service.turns.map Turn.bare ∧
      ∀ id, s'.service.archive.find? id =
        (e.interludes.foldl interlude (s.prompted rest)).service.archive.find? id := by
  obtain rfl : s.readLine = s' := by
    simpa [Session.step, loopStep, hs, hc] using hm
  have hbeside := beside_interludes (s.prompted rest) e.interludes
  obtain ⟨hgenerator, hturns, hfind⟩ :=
    (take_took (e.interludes.foldl interlude (s.prompted rest)) e.reading).idle hline
  rw [readLine_eq hinput]
  exact ⟨hgenerator.trans hbeside.generator_eq, (congrArg _ hturns).trans hbeside.bare_eq, hfind⟩

section

variable {service : Service} {settings : Settings} {cancelled : Bool}

theorem keeps_new (hnew : Session.new service settings input cancelled = .ok s₀) :
    Log.Keeps service.turns.length service.options settings.streaming s₀.id input []
      { session := s₀ } := by
  have howns := owns_new hnew
  obtain ⟨_, _, -, rfl⟩ := new_eq_ok_iff.mp hnew
  exact ⟨rfl, rfl, rfl, howns, rfl, rfl, rfl, by simp [NoneEnds], rfl⟩

/-- A session calls the generator as its lines say, and ends as they say unless it is cancelled. -/
theorem calls_follow_lines (hnew : Session.new service settings input cancelled = .ok s₀) :
    -- every run keeps its log in step with what it has read
    (∀ (moves : List Move) s, moves.foldlM Session.step s₀ = some s →
      ∃ l read, moves.foldlM (Log.step service.turns.length) { session := s₀ } = some l ∧
        l.session = s ∧
        l.Tells service.options.context settings.streaming s₀.id input read) ∧
    -- what the generator sees
    (∀ (r : Request) context a c, r.call? context a = some c →
      c.delivery = r.delivery ∧ ∃ m t, m.role = .user ∧ m.text = r.text ∧
        a.find? r.session = some t ∧ c.messages = context.shown t.messages m) ∧
    -- other lines add nothing
    (∀ (s s' : Session) (e : Entry) (rest : List Entry), s.stage = .awaiting →
      s.cancelled = false → s.input = e :: rest → turnLine? e.reading = none →
      s.step .loop = some s' →
      s'.service.generator = s.service.generator ∧
        s'.service.turns.map Turn.bare = s.service.turns.map Turn.bare ∧
        ∀ id, s'.service.archive.find? id =
          (e.interludes.foldl interlude (s.prompted rest)).service.archive.find? id) ∧
    -- no turn ends the session
    (∀ (s s' : Session) m k phase result, s.stage = .inTurn k phase → s.step m = some s' →
      s'.stage ≠ .over result) ∧
    -- and nothing is read after its end or after it was cancelled
    ∀ s s' : Session, (s.cancelled = true ∨ ∃ result, s.stage = .over result) → s.Leads s' →
      s'.prompts = s.prompts ∧ s'.input = s.input := by
  refine ⟨?_, fun r context a c => Request.call?_eq_some,
    fun s s' e rest hs hc hinput hline hm => idle_reading hs hc hinput hline hm,
    fun s s' m k phase result hs hm => not_over_of_inTurn (does_of_step hm) hs result,
    fun s s' hs hleads => hleads.reads_no_more hs⟩
  intro moves s hrun
  rw [← map_session_run (n := service.turns.length) { session := s₀ } moves] at hrun
  obtain ⟨l, hl, hsession⟩ := Option.map_eq_some_iff.mp hrun
  obtain ⟨read, hkeeps⟩ := keeps_foldlM
    (P := fun l => ∃ read, Log.Keeps service.turns.length service.options settings.streaming s₀.id
      input read l)
    (fun _ ⟨_, h⟩ hm => h.step hm) hl ⟨[], keeps_new hnew⟩
  exact ⟨l, read, hl, hsession, hkeeps.tells⟩

/-- Streaming is switched off before the only turn, which sees the whole transcript. -/
theorem calls_follow_lines_switched :
    let service : Service :=
      { archive := { clock := default }
        options := { context := .fullTranscript }
        generator := { script := [{ whole := .reply "Hello", streamed := .error default }] } }
    let line (text : String) : Entry := { reading := .ok (.line text) }
    let input := [line "/stream off", line "  ", line " Hi ", line "exit", line "Bye"]
    let moves : List Move :=
      [.loop, .loop, .loop, .part 0 .call, .part 0 .call, .part 0 .call, .loop, .indicator, .loop,
        .loop]
    ∃ s₀ l read, Session.new service {} input = .ok s₀ ∧
      moves.foldlM (Log.step 0) { session := s₀ } = some l ∧ l.session.stage = .over (.ok ()) ∧
      l.calls.map (fun c => (c.delivery, c.messages.map fun m => (m.role, m.text))) =
        [(.blocking, [(.user, "Hi")])] ∧
      l.Tells .fullTranscript true s₀.id input read := by
  intro service line input moves
  let opened := (Session.new service {} input).toOption
  let run := opened.bind fun s₀ => moves.foldlM (Log.step 0) { session := s₀ }
  obtain ⟨l, hrun⟩ : ∃ l, run = some l := Option.isSome_iff_exists.mp (by decide +kernel)
  have hover : run.map (·.session.stage) = some (.over (.ok ())) := by decide +kernel
  have hcalls : run.map (fun l =>
      l.calls.map fun c => (c.delivery, c.messages.map fun m => (m.role, m.text))) =
      some [(.blocking, [(.user, "Hi")])] := by decide +kernel
  simp only [hrun, Option.map_some, Option.some.injEq] at hover hcalls
  obtain ⟨s₀, hopened, hl⟩ := Option.bind_eq_some_iff.mp hrun
  have hnew := toOption_eq_some_iff.mp hopened
  have hmoves : moves.foldlM Session.step s₀ = some l.session := by
    rw [← map_session_run (n := 0) { session := s₀ } moves, hl, Option.map_some]
  obtain ⟨l', read, hl', -, htells⟩ := (calls_follow_lines hnew).1 moves l.session hmoves
  obtain rfl := Option.some.inj (hl.symm.trans hl')
  exact ⟨s₀, l, read, hnew, hl, hover, hcalls, htells⟩

end

end Session

end Parley
