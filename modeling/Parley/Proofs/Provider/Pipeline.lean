import Parley.Provider.Client
import Parley.Proofs.Provider.Fragments
import Parley.Proofs.Provider.Pumping
import Parley.Proofs.Relay.Verdict
import Mathlib.Logic.Relation

/-! # From the body to the transcript

A pump writes into the channel from which a relay reads. To the relay the pump is a generator that
sends the increments of its events, so that what it records is the verdict on them. A reply that a
provider streams is recorded as the text that the whole reply would have been.
-/

namespace Parley

namespace Provider

/-- A pump and the relay that reads from its channel. -/
structure Pipeline where
  items : List Item
  stage : Pump.Stage := .awaiting
  relay : Relay
  archive : Archive

namespace Pipeline

inductive Act where
  | pump
  | relay
  | receive
  | leave
  deriving DecidableEq, Repr

def start (session : SessionId) (policy : PartialPolicy) (sourceRoom sinkRoom : Nat)
    (archive : Archive) (items : List Item) : Pipeline where
  items := items
  relay := .between session policy (.ofCapacity sourceRoom) (.ofCapacity sinkRoom)
  archive := archive

def pump (p : Pipeline) : Pump :=
  { items := p.items, sink := p.relay.source, stage := p.stage }

def pumped (p : Pipeline) (q : Pump) : Pipeline :=
  { p with items := q.items, stage := q.stage, relay := { p.relay with source := q.sink } }

def step (p : Pipeline) : Act → Option Pipeline
  | .pump => (p.pump.step false).map p.pumped
  | .relay => (p.relay.step false p.archive).map fun (relay, archive) => { p with relay, archive }
  | .receive =>
    if p.relay.sink.receiverOpen then
      match p.relay.sink.receive with
      | .item _ sink => some { p with relay := { p.relay with sink } }
      | .empty | .closed => none
    else none
  | .leave => some { p with relay := { p.relay with sink := p.relay.sink.closeReceiver } }

def play (p : Pipeline) (acts : List Act) : Option Pipeline :=
  acts.foldlM step p

inductive Next (p : Pipeline) : Pipeline → Prop where

  | pump {q : Pump} : Pump.Move p.pump q → Next p (p.pumped q)

  | relay {r : Relay} {a : Archive} : Relay.Move false p.relay p.archive r a →
      Next p { p with relay := r, archive := a }

  | receive {i : Increment} {sink : Channel Increment} : p.relay.sink.receiverOpen = true →
      p.relay.sink.receive = .item i sink → Next p { p with relay := { p.relay with sink } }

  | leave : Next p { p with relay := { p.relay with sink := p.relay.sink.closeReceiver } }

open Relay (Scene)
open Relay.Scene (Tried)

variable {p p' : Pipeline} {w w' : Scene} {session : SessionId} {policy : PartialPolicy}
  {a₀ : Archive} {src : List Increment} {acts : List Act} {o : Relay.Outcome}

theorem next_of_step {act : Act} (h : p.step act = some p') : Next p p' := by
  cases act with
  | pump =>
    obtain ⟨q, hq, rfl⟩ := Option.map_eq_some_iff.mp h
    exact .pump (Pump.step_move hq)
  | relay =>
    obtain ⟨⟨r, a⟩, hs, rfl⟩ := Option.map_eq_some_iff.mp h
    exact .relay (Relay.step_move hs)
  | receive =>
    simp only [step] at h
    split at h
    · split at h
      · obtain rfl := Option.some.inj h
        exact .receive ‹_› ‹_›
      · cases h
      · cases h
    · cases h
  | leave =>
    obtain rfl := Option.some.inj h
    exact .leave

/-- A scene in which the generator has still to send what the pump has. Once the relay no longer
listens, it does not matter what that is. -/
structure Mirrors (p : Pipeline) (w : Scene) : Prop where
  relay_eq : w.relay = p.relay
  archive_eq : w.archive = p.archive
  cancelled : w.cancelled = false
  unsent_eq : p.relay.source.receiverOpen = true → w.unsent = p.pump.unsent
  left : p.stage = .ended → p.relay.source.senderOpen = false

theorem mirrors_start (session : SessionId) (policy : PartialPolicy) (sourceRoom sinkRoom : Nat)
    (a₀ : Archive) (items : List Item) :
    (start session policy sourceRoom sinkRoom a₀ items).Mirrors
      (.start session policy sourceRoom sinkRoom a₀ (Pump.increments items)) where
  relay_eq := rfl
  archive_eq := rfl
  cancelled := rfl
  unsent_eq _ := rfl
  left h := by cases h

theorem next_closeSender (h : w.relay.source.receiverOpen = true → w.unsent = []) :
    Scene.Next w { w with relay := { w.relay with source := w.relay.source.closeSender } } := by
  by_cases hopen : w.relay.source.receiverOpen = true
  · exact .hangUp (h hopen)
  · exact .giveUp (i := .last "") (Channel.send_eq_closed_iff.mpr (by simpa using hopen))

/-- A step of the pump is no act of the generator, or it is one or two. -/
theorem Mirrors.pump {q : Pump} (h : p.Mirrors w) (hm : Pump.Move p.pump q) :
    ∃ w', Relation.ReflTransGen Scene.Next w w' ∧ (p.pumped q).Mirrors w' := by
  obtain ⟨relay, archive, unsent, cancelled, taken, received, sawEnd⟩ := w
  obtain ⟨rfl, rfl, rfl, hunsent, hleft⟩ := h
  cases hm with
  | @skip x items hs hi hx =>
    rw [Pump.unsent_of_awaiting hs, hi, Pump.increments, hx] at hunsent
    have hrest : (p.pumped { p.pump with items }).pump.unsent = Pump.increments items :=
      Pump.unsent_of_awaiting hs
    exact ⟨_, .refl, rfl, rfl, rfl, fun hopen => (hunsent hopen).trans hrest.symm, hleft⟩
  | take hs hi hx =>
    rw [Pump.unsent_of_awaiting hs, hi, Pump.increments, hx] at hunsent
    exact ⟨_, .refl, rfl, rfl, rfl, hunsent, fun h => by cases h⟩
  | hangUp hs hi =>
    rw [Pump.unsent_of_awaiting hs, hi] at hunsent
    exact ⟨_, .single (next_closeSender hunsent), rfl, rfl, rfl, hunsent, fun _ => rfl⟩
  | send hs hr hi =>
    obtain ⟨hopen, -, -⟩ := Channel.send_eq_sent_iff.mp hr
    rw [Pump.unsent_of_sending hs, hi] at hunsent
    exact ⟨_, .single (.send (hunsent hopen) hr), rfl, rfl, rfl, fun _ => rfl, fun h => by cases h⟩
  | sendLast hs hr hi =>
    -- the pump leaves in the same step, the generator in an act of its own
    obtain ⟨hopen, -, -⟩ := Channel.send_eq_sent_iff.mp hr
    rw [Pump.unsent_of_sending hs, hi] at hunsent
    exact ⟨_, .tail (.single (.send (hunsent hopen) hr)) (next_closeSender fun _ => rfl),
      rfl, rfl, rfl, fun _ => rfl, fun _ => rfl⟩
  | giveUp hs hr =>
    have hclosed : p.relay.source.receiverOpen = false := Channel.send_eq_closed_iff.mp hr
    refine ⟨_, .single (.giveUp hr), rfl, rfl, rfl, fun hopen => ?_, fun _ => rfl⟩
    exact absurd (hclosed.symm.trans hopen) Bool.false_ne_true

theorem Mirrors.next (h : p.Mirrors w) (hn : Next p p') :
    ∃ w', Relation.ReflTransGen Scene.Next w w' ∧ p'.Mirrors w' := by
  obtain ⟨relay, archive, unsent, cancelled, taken, received, sawEnd⟩ := w
  cases hn with
  | pump hm => exact h.pump hm
  | relay hm =>
    obtain ⟨rfl, rfl, rfl, hunsent, hleft⟩ := h
    exact ⟨_, .single (.relay hm), rfl, rfl, rfl, fun hopen => hunsent (hm.listening hopen),
      fun hs => hm.senderOpen_eq.trans (hleft hs)⟩
  | receive hopen hr =>
    obtain ⟨rfl, rfl, rfl, hunsent, hleft⟩ := h
    exact ⟨_, .single (.receive hopen hr), rfl, rfl, rfl, hunsent, hleft⟩
  | leave =>
    obtain ⟨rfl, rfl, rfl, hunsent, hleft⟩ := h
    exact ⟨_, .single .leave, rfl, rfl, rfl, hunsent, hleft⟩

def Keeps (session : SessionId) (policy : PartialPolicy) (a₀ : Archive) (src : List Increment)
    (p : Pipeline) : Prop :=
  ∃ w : Scene, w.Tried session policy a₀ src ∧ p.Mirrors w

theorem keeps_start (session : SessionId) (policy : PartialPolicy) (sourceRoom sinkRoom : Nat)
    (a₀ : Archive) (items : List Item) :
    (start session policy sourceRoom sinkRoom a₀ items).Keeps session policy a₀
      (Pump.increments items) :=
  ⟨_, Scene.tried_start .., mirrors_start ..⟩

theorem Keeps.next (h : p.Keeps session policy a₀ src) (hn : Next p p') :
    p'.Keeps session policy a₀ src := by
  obtain ⟨w, htried, hmirrors⟩ := h
  obtain ⟨w', hacts, hmirrors'⟩ := hmirrors.next hn
  have htried' : w'.Tried session policy a₀ src := by
    clear hmirrors'
    induction hacts with
    | refl => exact htried
    | tail _ hn ih => exact ih.next hn
  exact ⟨w', htried', hmirrors'⟩

theorem Keeps.play (h : p.Keeps session policy a₀ src) (hp : p.play acts = some p') :
    p'.Keeps session policy a₀ src :=
  keeps_foldlM (fun _ h hs => Keeps.next h (next_of_step hs)) hp h

theorem Keeps.verdict_eq (h : p.Keeps session policy a₀ src) (ho : p.relay.outcome? = some o) :
    (o, p.archive) = Relay.verdict session policy a₀ src := by
  obtain ⟨w, htried, hmirrors⟩ := h
  rw [← hmirrors.archive_eq]
  exact htried.verdict_eq hmirrors.cancelled (hmirrors.relay_eq ▸ ho)

def tasks : List Act := [.pump, .relay, .receive]

def toDo (p : Pipeline) : Nat :=
  6 * p.items.length + p.stage.effort + p.relay.toDo

theorem toDo_eq (p : Pipeline) :
    p.toDo = p.pump.toDo + p.relay.stage.effort + p.relay.sink.items.length := by
  simp only [toDo, Relay.toDo, Pump.toDo, pump]
  omega

theorem pump_toDo_lt {q : Pump} (h : p.pump.step false = some q) :
    p.step .pump = some (p.pumped q) ∧ (p.pumped q).toDo < p.toDo := by
  have hlt := (Pump.step_move h).toDo_lt
  refine ⟨by simp [step, h], ?_⟩
  rw [toDo_eq, toDo_eq]
  exact Nat.add_lt_add_right (Nat.add_lt_add_right hlt _) _

theorem relay_toDo_lt {r : Relay} {a : Archive}
    (h : p.relay.step false p.archive = some (r, a)) :
    ∃ p', p.step .relay = some p' ∧ p'.toDo < p.toDo := by
  have hlt := (Relay.step_move h).toDo_lt
  exact ⟨{ p with relay := r, archive := a }, by simp [step, h], Nat.add_lt_add_left hlt _⟩

theorem receive_toDo_lt (hopen : p.relay.sink.receiverOpen = true)
    (hi : p.relay.sink.items ≠ []) : ∃ p', p.step .receive = some p' ∧ p'.toDo < p.toDo := by
  obtain ⟨i, rest, hi⟩ := List.exists_cons_of_ne_nil hi
  have hr : p.relay.sink.receive = .item i { p.relay.sink with items := rest } :=
    Channel.receive_eq_item_iff.mpr ⟨hi, rfl⟩
  refine ⟨{ p with relay := { p.relay with sink := { p.relay.sink with items := rest } } }, ?_, ?_⟩
  · simp [step, hopen, hr]
  · simp [toDo, Relay.toDo, hi]

theorem Keeps.gets_on (h : p.Keeps session policy a₀ src) (hn : p.relay.outcome? = none) :
    ∃ act ∈ tasks, ∃ p', p.step act = some p' ∧ p'.toDo < p.toDo := by
  obtain ⟨w, htried, hmirrors⟩ := h
  by_cases hread : p.relay.sink.receiverOpen = true ∧ p.relay.sink.items ≠ []
  · exact ⟨.receive, by simp [tasks], receive_toDo_lt hread.1 hread.2⟩
  · have hitems : p.relay.sink.receiverOpen = true → p.relay.sink.items = [] := by
      intro hopen
      by_contra hne
      exact hread ⟨hopen, hne⟩
    have hable : p.relay.Able := hmirrors.relay_eq ▸ htried.able
    rcases hable.step_cases hitems false p.archive with hs | ⟨o, ho⟩ | ⟨-, hr⟩
    · obtain ⟨⟨r, a⟩, hs⟩ := Option.isSome_iff_exists.mp hs
      exact ⟨.relay, by simp [tasks], relay_toDo_lt hs⟩
    · simp [Relay.outcome?_eq_some_iff.mpr ho] at hn
    · obtain ⟨hempty, hsender⟩ := Channel.receive_eq_empty_iff.mp hr
      have hstage : p.pump.stage ≠ .ended := by
        intro he
        simp [hmirrors.left he] at hsender
      obtain ⟨q, hq⟩ := Pump.exists_step hstage hempty hable.sourceRoom
      exact ⟨.pump, by simp [tasks], p.pumped q, pump_toDo_lt hq⟩

/-- However far a pipeline has come, its tasks can bring the relay to its end. -/
theorem Keeps.ends (h : p.Keeps session policy a₀ src) :
    ∃ acts p' o, (∀ act ∈ acts, act ∈ tasks) ∧ p.play acts = some p' ∧
      p'.relay.outcome? = some o := by
  obtain ⟨acts, p', hacts, hplay, -, hend⟩ :=
    exists_run (fun q : Pipeline => q.Keeps session policy a₀ src)
      (fun q => q.relay.outcome?.isSome) toDo
      (fun q hq hn => by
        obtain ⟨act, hact, q', hs, hlt⟩ := hq.gets_on (Option.not_isSome_iff_eq_none.mp hn)
        exact ⟨act, hact, q', hs, hlt, hq.next (next_of_step hs)⟩)
      h
  obtain ⟨o, ho⟩ := Option.isSome_iff_exists.mp hend
  exact ⟨acts, p', o, hacts, hplay, ho⟩

theorem events_eq {c : Client} {answer : Answer} {s : Response} {ts : List String}
    {fs : List (List Char × List Char)} (hresponse : c.response? answer = .ok s)
    (hcarries : Carries ts fs) (hbody : s.pieces.flatten = Utf8.encode (bodyText fs))
    (hwhole : s.breaksOff = false) :
    c.events answer = .ok (fs.map fun f => Event.ofFields f.1 f.2) := by
  have hstream : s.stream = s.pieces.map .bytes := by simp [Response.stream, hwhole]
  rw [Client.events, hresponse, Except.map, hstream,
    EventStream.decode_bodyText hcarries.isLine hbody]

/-- A reply is recorded alike whether it is streamed or comes as a whole: as its fragments put
together, in one message. That holds however the fragments are escaped, whatever events and blocks
stand between them, wherever the body is cut, and in whatever order the pump, the relay and its
reader act, whether the reader stays or leaves. Before its end one of the tasks can always get on,
and the end is never out of reach. -/
theorem records_whole {c : Client} {answer streamed : Answer} {r s : Response} {ts : List String}
    {fs : List (List Char × List Char)} {session : SessionId} {a₀ : Archive}
    (hanswer : c.response? answer = .ok r) (hreplies : Replies ts r)
    (hstreamed : c.response? streamed = .ok s) (hcarries : Carries ts fs)
    (hbody : s.pieces.flatten = Utf8.encode (bodyText fs)) (hwhole : s.breaksOff = false)
    (haccepts : (a₀.append session .assistant (String.join ts)).1.isOk = true) :
    c.whole answer = .ok (String.join ts) ∧
    ∃ items, c.events streamed = .ok items ∧
      ∀ policy sourceRoom sinkRoom acts p,
        (start session policy sourceRoom sinkRoom a₀ items).play acts = some p →
        (∀ o, p.relay.outcome? = some o → o = .completed (String.join ts) true ∧
          a₀.Grew p.archive session [(.assistant, String.join ts)]) ∧
        (p.relay.outcome? = none →
          (∃ act ∈ tasks, ∃ p', p.step act = some p' ∧ p'.toDo < p.toDo) ∧
          ∃ acts' p', (∀ act ∈ acts', act ∈ tasks) ∧ p.play acts' = some p' ∧
            p'.relay.outcome? = some (.completed (String.join ts) true) ∧
            a₀.Grew p'.archive session [(.assistant, String.join ts)]) := by
  refine ⟨by simp [Client.whole, hanswer, hreplies.reply_eq, Except.bind], _,
    events_eq hstreamed hcarries hbody hwhole, fun policy sourceRoom sinkRoom acts p hp => ?_⟩
  have hkeeps := (keeps_start session policy sourceRoom sinkRoom a₀ _).play hp
  rw [hcarries.increments_eq] at hkeeps
  have hends {p' : Pipeline} {o : Relay.Outcome}
      (h : p'.Keeps session policy a₀ (ts.map .ofText ++ [.last ""]))
      (ho : p'.relay.outcome? = some o) : o = .completed (String.join ts) true ∧
        a₀.Grew p'.archive session [(.assistant, String.join ts)] := by
    have hverdict := h.verdict_eq ho
    rw [Scene.verdict_texts, haccepts] at hverdict
    obtain ⟨rfl, harchive⟩ := Prod.mk.inj hverdict
    have hgrew := a₀.grew_append session .assistant (String.join ts)
    rw [Archive.addition, if_pos haccepts, ← harchive] at hgrew
    exact ⟨rfl, hgrew⟩
  refine ⟨fun o ho => hends hkeeps ho, fun hn => ⟨hkeeps.gets_on hn, ?_⟩⟩
  obtain ⟨acts', p', o, hacts, hplay, ho⟩ := hkeeps.ends
  obtain ⟨rfl, hgrew⟩ := hends (hkeeps.play hplay) ho
  exact ⟨acts', p', hacts, hplay, ho, hgrew⟩

/-- An accented letter and a face, each once as itself and once escaped, with other events and
blocks around them, and with the body of the stream cut inside the letter. -/
theorem records_whole_face :
    let archive : Archive := (Archive.create { clock := default }).2
    let c : Client :=
      { apiKey := "key", baseUrl := Client.defaultUrl, timeout := Client.defaultTimeout }
    let fs : List (List Char × List Char) := [
      ("ping".toList, ['{', '}']),
      ("content_block_delta".toList, deltaText "thinking_delta" "so".toList),
      ("content_block_delta".toList, deltaText "text_delta" "é".toList),
      ("content_block_delta".toList, deltaText "text_delta" "\\ud83d\\ude00".toList),
      ("message_stop".toList, ['{', '}'])]
    let body := Utf8.encode (bodyText fs)
    let items := typedText "thinking" "so".toList ++ ',' :: (typedText "text" "\\u00e9".toList ++
      ',' :: typedText "text" "😀".toList)
    let r : Response := { chunks := [Utf8.encode (documentText items)] }
    let s : Response := { chunks := [body.take 176, body.drop 176] }
    c.whole (.response r) = .ok "é😀" ∧
    ∃ events acts p, c.events (.response s) = .ok events ∧
      (start (.ofSerial 1) .discard 1 1 archive events).play acts = some p ∧
      p.relay.outcome? = some (.completed "é😀" true) ∧
      archive.Grew p.archive (.ofSerial 1) [(.assistant, "é😀")] := by
  intro archive c fs body items r s
  have hline : IsLine ['{', '}'] := ⟨by decide, by decide, by decide⟩
  have hso := Json.spelledAs_of_isPlain (show Json.IsPlain "so".toList by decide)
  have hletter := Json.spelledAs_of_isPlain (show Json.IsPlain "é".toList by decide)
  have hface := Json.spelledAs_of_isPlain (show Json.IsPlain "😀".toList by decide)
  have hletter' : Json.SpelledAs "é".toList "\\u00e9".toList [.unit 0xE9] :=
    ⟨.cons (.unit (by decide)) .nil, .unit (c := 'é') .nil, by decide, by decide⟩
  have hface' : Json.SpelledAs "😀".toList "\\ud83d\\ude00".toList [.unit 0xD83D, .unit 0xDE00] :=
    ⟨.cons (.unit (by decide)) (.cons (.unit (by decide)) .nil),
      .pair (by decide) (by decide) (by decide) (by decide) (by decide) .nil, by decide, by decide⟩
  have hcarries : Carries ["é", "😀"] fs :=
    .skip (.unread ⟨by decide, by decide, by decide⟩ hline (by decide)) <|
    .skip (.otherDelta
      (holdsDelta_deltaText "thinking_delta" (by decide) (by decide) (by decide) hso)
      (by decide)) <|
    .text (holdsDelta_deltaText "text_delta" (by decide) (by decide) (by decide) hletter) rfl rfl <|
    .text (holdsDelta_deltaText "text_delta" (by decide) (by decide) (by decide) hface') rfl rfl <|
    .stop hline
  have hreplies : Replies ["é", "😀"] r :=
    replies_documentText
      (.skip (holdsBlock_typed "thinking" hso.spells) (by decide)
        (.text (holdsBlock_typed "text" hletter'.spells) rfl rfl
          (.text (holdsBlock_typed "text" hface.spells) rfl rfl .nil)))
      (.items (.cons (written_typed "thinking" (by decide) hso.quoted).padded
        (.cons (written_typed "text" (by decide) hletter'.quoted).padded
          (.last (written_typed "text" (by decide) hface.quoted).padded))))
  have hurl : c.url?.isSome = true := by decide +kernel
  have hanswer : c.response? (.response r) = .ok r := by
    rw [Client.response?, if_pos hurl]
    rfl
  have hstreamed : c.response? (.response s) = .ok s := by
    rw [Client.response?, if_pos hurl]
    rfl
  have hpieces : s.pieces.flatten = Utf8.encode (bodyText fs) := by
    simp [s, body, Response.pieces, Response.hasBody, List.flatten_filter_not_isEmpty]
  have haccepts :
      (archive.append (.ofSerial 1) .assistant (String.join ["é", "😀"])).1.isOk = true := rfl
  obtain ⟨hwhole, events, hevents, hruns⟩ :=
    records_whole hanswer hreplies hstreamed hcarries hpieces rfl haccepts
  obtain ⟨-, hends⟩ := hruns .discard 1 1 [] _ rfl
  obtain ⟨-, acts, p, -, hplay, ho, hgrew⟩ := hends rfl
  exact ⟨hwhole, events, acts, p, hevents, hplay, ho, hgrew⟩

end Pipeline

end Provider

end Parley
