import Parley.Proofs.Relay.Faithful

/-! # The stream alone decides

What a relay comes to that is never cancelled is laid down by the increments of its generator, the
policy and the store. The reader has no part in it, whether it receives quickly or slowly or leaves,
and neither have the room in the channels and the order in which everybody acts. As long as the
relay has not ended somebody can get on, if only the reader is willing to receive.
-/

namespace Parley

namespace Archive

variable {a : Archive} {id : SessionId}

theorem isOk_append_setClock (a : Archive) (id : SessionId) (role : Role) (text : String)
    (clock : Timestamp) (tick : Int) :
    ({ a with clock, tick }.append id role text).1.isOk = (a.append id role text).1.isOk := by
  simp only [append]
  split
  · rfl
  · simp only [Store.append, now]
    cases a.store.find? id <;> rfl

theorem Grew.pairs_eq {b b' a' : Archive} {said : List (Role × String)} (h : Grew a b id said)
    (h' : Grew a' b' id said) (ha : ∀ j, a'.find? j = a.find? j) (j : SessionId) :
    (b'.find? j).map Transcript.pairs = (b.find? j).map Transcript.pairs := by
  by_cases hj : j = id
  · subst hj
    obtain ⟨ms, rfl, hb⟩ := h.here
    obtain ⟨ms', hms, hb'⟩ := h'.here
    rw [hb, hb', ha, Option.map_map, Option.map_map]
    congr 1
    funext t
    simp [hms]
  · rw [h.elsewhere j hj, h'.elsewhere j hj, ha]

end Archive

namespace Relay

open Increment

variable {cancelled : Bool} {r r' : Relay} {a a' : Archive} {i : Increment} {p : Bool}

@[simp] theorem policy_passed : (r.passed i p).policy = r.policy := by
  rcases passed_cases r i p with ⟨-, h⟩ | ⟨-, h⟩ | ⟨-, h⟩ <;> rw [h]

@[simp] theorem policy_withdrawn : (r.withdrawn i p).policy = r.policy := by
  rcases withdrawn_cases r i p with ⟨-, h⟩ | ⟨-, h⟩ <;> rw [h]

theorem Move.policy_eq (h : Move cancelled r a r' a') : r'.policy = r.policy := by
  cases h <;> simp [Relay.finish]

/-- What a relay comes to that nobody cancels, with the archive that it leaves behind. -/
def verdict (session : SessionId) (policy : PartialPolicy) (a : Archive) (src : List Increment) :
    Outcome × Archive :=
  let text := gathered (upToTerminal src)
  let (answer, b) := a.append session .assistant text
  match src.find? Increment.isTerminal with
  | none => (.hungUp text answer.isOk, b)
  | some i =>
    if i.isLast then (.completed text answer.isOk, b)
    else if policy = .persist ∧ text ≠ "" then (.failed answer.isOk, b)
    else (.failed false, a)

namespace Scene

variable {w w' : Scene} {a₀ : Archive} {session : SessionId} {policy : PartialPolicy}
  {src : List Increment} {acts : List Act} {o : Outcome}

/-- A relay that ends with a failure has kept the text before it if the policy is to keep it. -/
def Weighs (session : SessionId) (a₀ : Archive) (w : Scene) : Stage → Prop
  | .closing (.failed p) | .ended (.failed p) =>
    if w.relay.policy = .persist ∧ gathered w.taken ≠ "" then w.Recorded session a₀ p
    else p = false ∧ w.archive = a₀
  | _ => True

theorem weighs_passed (r : Relay) (i : Increment) (p : Bool) (w : Scene) :
    w.Weighs session a₀ (r.passed i p).stage := by
  rcases passed_cases r i p with ⟨-, h⟩ | ⟨-, h⟩ | ⟨-, h⟩ <;> rw [h] <;> trivial

theorem weighs_withdrawn (r : Relay) (i : Increment) (p : Bool) (w : Scene) :
    w.Weighs session a₀ (r.withdrawn i p).stage := by
  rcases withdrawn_cases r i p with ⟨-, h⟩ | ⟨-, h⟩ <;> rw [h] <;> trivial

theorem Weighs.relay {r : Relay} {a : Archive} (hsound : w.Sound session a₀ src)
    (h : w.Weighs session a₀ w.relay.stage) (hm : Move w.cancelled w.relay w.archive r a) :
    (w.stepped r a).Weighs session a₀ r.stage := by
  have hstands := hsound.stands
  cases hm with
  | skip | pass | loseReader => exact weighs_passed ..
  | withdraw => exact weighs_withdrawn ..
  | keepPartial hs hpolicy htext hr =>
    rw [hs] at hstands
    obtain ⟨-, hg, rfl⟩ := hstands
    simp only [Weighs, Recorded, stepped, hs, reduceCtorEq, if_false, List.append_nil]
    rw [if_pos ⟨hpolicy, hg ▸ htext⟩, ← hsound.session_eq]
    exact recorded_of_record hg hr
  | dropPartial hs hnot =>
    rw [hs] at hstands
    obtain ⟨-, hg, ha⟩ := hstands
    simp only [Weighs, stepped, hs, reduceCtorEq, if_false, List.append_nil]
    rw [if_neg (hg ▸ hnot)]
    exact ⟨trivial, ha⟩
  | @finish o hs =>
    rw [hs] at h
    cases o with
    | failed => simpa [Weighs, stepped, hs, Relay.finish, Recorded] using h
    | _ => trivial
  | _ => trivial

structure Tried (session : SessionId) (policy : PartialPolicy) (a₀ : Archive)
    (src : List Increment) (w : Scene) : Prop where
  policy_eq : w.relay.policy = policy
  able : w.relay.Able
  sound : w.Sound session a₀ src
  gathers : w.Gathers src w.relay.stage
  weighs : w.Weighs session a₀ w.relay.stage

theorem tried_start (session : SessionId) (policy : PartialPolicy) (sourceRoom sinkRoom : Nat)
    (a₀ : Archive) (src : List Increment) :
    (start session policy sourceRoom sinkRoom a₀ src).Tried session policy a₀ src where
  policy_eq := rfl
  able := able_between session policy sourceRoom sinkRoom
  sound := sound_start session policy sourceRoom sinkRoom a₀ src
  gathers := ⟨calm_nil, rfl⟩
  weighs := trivial

theorem Tried.next (h : w.Tried session policy a₀ src) (hn : Next w w') :
    w'.Tried session policy a₀ src := by
  obtain ⟨hpolicy, hable, hsound, hgathers, hweighs⟩ := h
  refine ⟨?_, able_next hable hn, hsound.next hn, ?_, ?_⟩
  · cases hn with
    | relay hm => exact hm.policy_eq.trans hpolicy
    | _ => exact hpolicy
  · cases hn with
    | relay hm => exact hgathers.relay hsound.flows hm
    | cancel => exact hgathers.congr rfl rfl fun _ => rfl
    | _ => exact hgathers.congr rfl rfl id
  · cases hn with
    | relay hm => exact hweighs.relay hsound hm
    | _ => exact hweighs

theorem tried_play {sourceRoom sinkRoom : Nat}
    (h : (start session policy sourceRoom sinkRoom a₀ src).play acts = some w) :
    w.Tried session policy a₀ src :=
  keeps_play Tried.next h (tried_start ..)

theorem EndsWith.find? {kind : Increment → Bool} (h : w.EndsWith kind)
    (hk : ∀ i, kind i = true → i.isTerminal = true) (hp : w.taken <+: src) :
    ∃ i, kind i = true ∧ src.find? Increment.isTerminal = some i := by
  obtain ⟨is, i, ht, hcalm, hi⟩ := h
  obtain ⟨js, rfl⟩ := hp
  refine ⟨i, hi, ?_⟩
  rw [ht, List.append_assoc, find?_of_calm hcalm]
  simp [hk i hi]

theorem Tried.verdict_eq (h : w.Tried session policy a₀ src) (hc : w.cancelled = false)
    (ho : w.relay.outcome? = some o) : (o, w.archive) = verdict session policy a₀ src := by
  have hstage := outcome?_eq_some_iff.mp ho
  have hprefix := h.sound.flows.taken_prefix
  obtain ⟨rfl, -, ⟨-, -, hstands⟩, hgathers, hweighs⟩ := h
  rw [hstage] at hstands hgathers hweighs
  have htaken : w.taken = upToTerminal src := Concluded.taken_eq hprefix hstands hc
  rw [verdict]
  cases o with
  | completed text p =>
    obtain ⟨hend, hok, ha⟩ := hstands
    obtain ⟨-, rfl⟩ := hgathers
    obtain ⟨i, hi, hfind⟩ := hend.find? (fun _ => isTerminal_of_isLast) hprefix
    rw [htaken] at hok ha
    simp [hfind, hi, htaken, hok, ha]
  | hungUp text p =>
    obtain ⟨hcalm, rfl, hok, ha⟩ := hstands
    obtain ⟨-, -, rfl⟩ := hgathers
    have hfind : w.taken.find? Increment.isTerminal = none := by
      simpa using find?_of_calm hcalm []
    simp only [hfind, ← htaken, hok, ha]
  | failed p =>
    obtain ⟨hend, -⟩ := hstands
    obtain ⟨i, hi, hfind⟩ := hend.find? (fun _ => isTerminal_of_isError) hprefix
    have hlast : i.isLast = false := by simp [isLast, hi]
    dsimp only [Weighs, Recorded] at hweighs
    rw [htaken] at hweighs
    simp only [hfind, hlast, Bool.false_eq_true, if_false]
    split at hweighs
    · next hkeep =>
      obtain ⟨hok, ha⟩ := hweighs
      rw [if_pos hkeep, hok, ha]
    · next hkeep =>
      obtain ⟨rfl, ha⟩ := hweighs
      rw [if_neg hkeep, ha]
  | cancelled =>
    obtain ⟨-, -, hcancelled⟩ := hstands
    simp [hc] at hcancelled

/-- The clock has no effect on the verdict, and none on what is said in the transcripts. -/
theorem verdict_setClock (session : SessionId) (policy : PartialPolicy) (a : Archive)
    (src : List Increment) (clock : Timestamp) (tick : Int) :
    (verdict session policy { a with clock, tick } src).1 = (verdict session policy a src).1 ∧
      ∀ id, ((verdict session policy { a with clock, tick } src).2.find? id).map Transcript.pairs =
        ((verdict session policy a src).2.find? id).map Transcript.pairs := by
  let text := gathered (upToTerminal src)
  have hok := a.isOk_append_setClock session .assistant text clock tick
  have hgrew := a.grew_append session .assistant text
  have hgrew' := Archive.grew_append { a with clock, tick } session .assistant text
  rw [Archive.addition, hok, ← Archive.addition] at hgrew'
  have hpairs := hgrew.pairs_eq hgrew' fun _ => rfl
  simp only [verdict]
  split
  · exact ⟨by rw [hok], hpairs⟩
  · split
    · exact ⟨by rw [hok], hpairs⟩
    · split
      · exact ⟨by rw [hok], hpairs⟩
      · exact ⟨rfl, fun _ => rfl⟩

theorem verdict_texts (session : SessionId) (policy : PartialPolicy) (a : Archive)
    (ts : List String) :
    verdict session policy a (ts.map ofText ++ [last ""]) =
      (.completed (String.join ts) (a.append session .assistant (String.join ts)).1.isOk,
        (a.append session .assistant (String.join ts)).2) := by
  have htaken : upToTerminal (ts.map ofText ++ [last ""]) = ts.map ofText ++ [last ""] :=
    upToTerminal_calm (calm_texts ts)
  have hfind : (ts.map ofText ++ [last ""]).find? Increment.isTerminal = some (last "") :=
    find?_of_calm (calm_texts ts) [last ""]
  rw [verdict, hfind, htaken, gathered_texts]
  rfl

def tasks : List Act := [.send, .hangUp, .relay, .receive]

def toDo (w : Scene) : Nat :=
  5 * w.unsent.length + (if w.relay.source.senderOpen then 1 else 0) + w.relay.toDo

theorem toDo_stepped {r : Relay} {a : Archive} (hm : Move w.cancelled w.relay w.archive r a) :
    (w.stepped r a).toDo < w.toDo := by
  have hlt := hm.toDo_lt
  have hsender := hm.senderOpen_eq
  simp only [toDo, stepped, hsender]
  omega

theorem receive_toDo_lt (hopen : w.relay.sink.receiverOpen = true) (hi : w.relay.sink.items ≠ []) :
    ∃ w', w.step .receive = some w' ∧ w'.toDo < w.toDo ∧ w'.cancelled = w.cancelled := by
  obtain ⟨i, rest, hi⟩ := List.exists_cons_of_ne_nil hi
  refine ⟨{ w with
    received := w.received ++ [i]
    relay := { w.relay with sink := { w.relay.sink with items := rest } } }, ?_, ?_, rfl⟩
  · have hr : w.relay.sink.receive = .item i { w.relay.sink with items := rest } :=
      Channel.receive_eq_item_iff.mpr ⟨hi, rfl⟩
    simp [step, Scene.receive, hopen, hr]
  · simp only [toDo, Relay.toDo, hi, List.length_cons]
    omega

theorem feed_toDo_lt (hroom : 0 < w.relay.source.capacity)
    (hlistening : w.relay.source.receiverOpen = true) (hr : w.relay.source.receive = .empty) :
    ∃ act ∈ tasks, ∃ w', w.step act = some w' ∧ w'.toDo < w.toDo ∧
      w'.cancelled = w.cancelled := by
  obtain ⟨hitems, hsender⟩ := Channel.receive_eq_empty_iff.mp hr
  cases hu : w.unsent with
  | nil =>
    refine ⟨.hangUp, by simp [tasks],
      { w with relay := { w.relay with source := w.relay.source.closeSender } }, ?_, ?_, rfl⟩
    · simp [step, Scene.hangUp, hu]
    · simp [toDo, Relay.toDo, Channel.closeSender, hsender]
  | cons i rest =>
    have hsend : w.relay.source.send i = .sent { w.relay.source with items := [i] } :=
      Channel.send_eq_sent_iff.mpr ⟨hlistening, by simpa [hitems] using hroom, by simp [hitems]⟩
    refine ⟨.send, by simp [tasks],
      { w with
        unsent := rest
        relay := { w.relay with source := { w.relay.source with items := [i] } } }, ?_, ?_, rfl⟩
    · simp [step, Scene.send, hu, hsend]
    · simp only [toDo, Relay.toDo, hu, hitems, List.length_cons, List.length_nil]
      omega

theorem Tried.gets_on (h : w.Tried session policy a₀ src) (hn : w.relay.outcome? = none) :
    ∃ act ∈ tasks, ∃ w', w.step act = some w' ∧ w'.toDo < w.toDo ∧
      w'.cancelled = w.cancelled := by
  by_cases hread : w.relay.sink.receiverOpen = true ∧ w.relay.sink.items ≠ []
  · exact ⟨.receive, by simp [tasks], receive_toDo_lt hread.1 hread.2⟩
  · have hitems : w.relay.sink.receiverOpen = true → w.relay.sink.items = [] := by
      intro hopen
      by_contra hne
      exact hread ⟨hopen, hne⟩
    rcases h.able.step_cases hitems w.cancelled w.archive with hs | ⟨o, ho⟩ | ⟨hs, hr⟩
    · obtain ⟨⟨r, a⟩, hs⟩ := Option.isSome_iff_exists.mp hs
      exact ⟨.relay, by simp [tasks], w.stepped r a, by simp [step, hs],
        toDo_stepped (step_move hs), rfl⟩
    · simp [outcome?_eq_some_iff.mpr ho] at hn
    · have hlistening := h.sound.flows.listening (by rw [hs]; rfl)
      exact feed_toDo_lt h.able.sourceRoom hlistening hr

/-- However far a scene has come, its tasks can bring the relay to its end. -/
theorem Tried.ends (h : w.Tried session policy a₀ src) :
    ∃ acts w' o, (∀ act ∈ acts, act ∈ tasks) ∧ w.play acts = some w' ∧
      w'.Tried session policy a₀ src ∧ w'.cancelled = w.cancelled ∧
      w'.relay.outcome? = some o := by
  obtain ⟨acts, w', hacts, hplay, ⟨htried, hc⟩, hend⟩ :=
    exists_run (fun v : Scene => v.Tried session policy a₀ src ∧ v.cancelled = w.cancelled)
      (fun v => v.relay.outcome?.isSome) toDo (fun v hv hn => by
        obtain ⟨act, hact, v', hs, hlt, hc⟩ := hv.1.gets_on (Option.not_isSome_iff_eq_none.mp hn)
        exact ⟨act, hact, v', hs, hlt, hv.1.next (next_of_step hs), hc.trans hv.2⟩)
      ⟨h, rfl⟩
  obtain ⟨o, ho⟩ := Option.isSome_iff_exists.mp hend
  exact ⟨acts, w', o, hacts, hplay, htried, hc, ho⟩

/-- A relay that nobody cancels ends with the verdict on its stream, whatever the room in its
channels, the order of the acts and the ways of its reader; so any two such relays end alike, even
if they look at the clock at different times. Before its end one of the tasks can always get on, and
the end is never out of reach. -/
theorem stream_decides {session : SessionId} {policy : PartialPolicy} {sourceRoom sinkRoom : Nat}
    {a₀ : Archive} {src : List Increment} {acts : List Act} {w : Scene}
    (h : (start session policy sourceRoom sinkRoom a₀ src).play acts = some w)
    (hc : w.cancelled = false) :
    (∀ o, w.relay.outcome? = some o →
      (o, w.archive) = verdict session policy a₀ src ∧
      ∀ (clock : Timestamp) (tick : Int) (sourceRoom' sinkRoom' : Nat) (acts' : List Act)
        (w' : Scene) (o' : Outcome),
        (start session policy sourceRoom' sinkRoom' { a₀ with clock, tick } src).play acts' =
          some w' → w'.cancelled = false → w'.relay.outcome? = some o' →
        o' = o ∧ ∀ id, (w'.archive.find? id).map Transcript.pairs =
          (w.archive.find? id).map Transcript.pairs) ∧
    (w.relay.outcome? = none →
      (∃ act ∈ tasks, ∃ w', w.step act = some w' ∧ w'.toDo < w.toDo) ∧
      ∃ acts' w' o, (∀ act ∈ acts', act ∈ tasks) ∧ w.play acts' = some w' ∧
        w'.relay.outcome? = some o ∧ (o, w'.archive) = verdict session policy a₀ src) := by
  have htried := tried_play h
  refine ⟨fun o ho => ?_, fun hn => ⟨?_, ?_⟩⟩
  · have hverdict := htried.verdict_eq hc ho
    refine ⟨hverdict, fun clock tick sourceRoom' sinkRoom' acts' w' o' h' hc' ho' => ?_⟩
    have hverdict' := (tried_play h').verdict_eq hc' ho'
    obtain ⟨hsame, hpairs⟩ := verdict_setClock session policy a₀ src clock tick
    rw [← hverdict, ← hverdict'] at hsame hpairs
    exact ⟨hsame, hpairs⟩
  · obtain ⟨act, hact, w', hs, hlt, -⟩ := htried.gets_on hn
    exact ⟨act, hact, w', hs, hlt⟩
  · obtain ⟨acts', w', o, hacts, hplay, htried', hc', ho⟩ := htried.ends
    exact ⟨acts', w', o, hacts, hplay, ho, htried'.verdict_eq (hc'.trans hc) ho⟩

/-- A reader that leaves after the first piece, one that has more room and never receives, and a
relay that still has its end before it. -/
theorem stream_decides_hello :
    let archive : Archive := (Archive.create { clock := default }).2
    let src : List Increment := [.ofText "Hel", .last "lo"]
    let leaves : List Act :=
      [.send, .relay, .relay, .relay, .leave, .send, .relay, .relay, .relay, .relay]
    let idles : List Act := [.send, .relay, .relay, .relay, .send, .relay, .relay, .relay, .relay]
    ∃ w w' u, (start (.ofSerial 1) .discard 1 1 archive src).play leaves = some w ∧
      (start (.ofSerial 1) .discard 0 2 { archive with tick := 7 } src).play idles = some w' ∧
      w.relay.outcome? = some (.completed "Hello" true) ∧
      w'.relay.outcome? = w.relay.outcome? ∧
      (w'.archive.find? (.ofSerial 1)).map Transcript.pairs =
        (w.archive.find? (.ofSerial 1)).map Transcript.pairs ∧
      (start (.ofSerial 1) .discard 1 1 archive src).play [.send] = some u ∧
      ∃ acts w'' o, u.play acts = some w'' ∧ w''.relay.outcome? = some o ∧
        (o, w''.archive) = verdict (.ofSerial 1) .discard archive src := by
  intro archive src leaves idles
  obtain ⟨w, h, hc, ho⟩ : ∃ w, (start (.ofSerial 1) .discard 1 1 archive src).play leaves = some w ∧
      w.cancelled = false ∧ w.relay.outcome? = some (.completed "Hello" true) :=
    ⟨_, rfl, rfl, rfl⟩
  obtain ⟨w', h', hc', o', ho'⟩ : ∃ w', (start (.ofSerial 1) .discard 0 2
      { archive with tick := 7 } src).play idles = some w' ∧
      w'.cancelled = false ∧ ∃ o', w'.relay.outcome? = some o' := ⟨_, rfl, rfl, _, rfl⟩
  obtain ⟨u, hu, huc, huo⟩ : ∃ u, (start (.ofSerial 1) .discard 1 1 archive src).play [.send] =
      some u ∧ u.cancelled = false ∧ u.relay.outcome? = none := ⟨_, rfl, rfl, rfl⟩
  obtain ⟨hsame, hpairs⟩ := ((stream_decides h hc).1 _ ho).2 archive.clock 7 0 2 idles w' o' h' hc' ho'
  obtain ⟨-, acts, w'', o, -, hplay, hend, hverdict⟩ := (stream_decides hu huc).2 huo
  exact ⟨w, w', u, h, h', ho, by rw [ho, ho', hsame], hpairs _, hu, acts, w'', o, hplay, hend,
    hverdict⟩

end Scene

end Relay

end Parley
