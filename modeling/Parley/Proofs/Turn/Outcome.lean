import Parley.Proofs.Runs
import Parley.Proofs.Turn.Step

/-! # The outcome of a call tells its effect

A call that asks for a whole reply ends with the reply or with an error. Whatever the store refuses,
whatever the generator answers and whenever the turn is cancelled, the result of the call tells
exactly what was added to the transcript.
-/

namespace Parley

namespace Service

inductive CallAct where
  | call
  | cancel
  | wait (moment : Nat)
  deriving DecidableEq, Repr

def callAct (k : Nat) (s : Service) : CallAct → Option Service
  | .call => s.step k .call
  | .cancel => some (s.cancel k)
  | .wait moment => if s.now < moment then some { s with now := moment } else none

def reply? (s : Service) (k : Nat) : Option (Except Error String) :=
  match (s.turns[k]?).map Turn.stage with
  | some (.replied answer) => some answer
  | _ => none

def answer? (s : Service) (k : Nat) : Option (Except Error String) :=
  match (s.turns[k]?).map Turn.stage with
  | some (.answered result) => some result
  | _ => none

def isCancelled (s : Service) (k : Nat) : Bool :=
  ((s.turns[k]?).map Turn.cancelled).getD false

/-- The store takes what the user says and lets the context be read. -/
def Hears (s : Service) (id : SessionId) (text : String) : Prop :=
  (s.archive.append id .user text).1.isOk = true ∧
    (s.options.context = .fullTranscript →
      ((s.archive.append id .user text).2.get id).1.isOk = true)

/-- The user was heard and the generator was called. -/
def Called (s u : Service) (id : SessionId) (text : String) (p : Performance) : Prop :=
  s.Hears id text ∧ s.archive.Grew u.archive id [(.user, text)] ∧
    ∃ messages, s.generator.call .blocking messages = (p, u.generator)

/-- What has happened since the beginning of a call, at every stage of its turn. -/
def Since (s : Service) (id : SessionId) (text : String) (u : Service) : Turn.Stage → Prop
  | .asked said => said = text ∧ u.archive = s.archive ∧ u.generator = s.generator
  | .generating p _ => s.Called u id text p
  | .replied answer =>
    ∃ p, s.Called u id text p ∧ ∃ due now c, p.reply? due now c = some answer
  | .answered _ => True
  | .streaming .. => False

def Underway (s : Service) (k : Nat) (id : SessionId) (text : String) (u : Service) : Prop :=
  u.options = s.options ∧ ∃ t, u.turns[k]? = some t ∧ t.session = id ∧ t.delivery = .blocking ∧
    s.Since id text u t.stage

/-- What a call that returned has to do with the store and the generator. The call began in `s`,
and returned with a step from `v` to `u`. -/
structure Tells (s v u : Service) (k : Nat) (id : SessionId) (text : String)
    (result : Except Error String) : Prop where
  calls : u.generator.calls = s.generator.calls ∨
    ∃ messages, u.generator.calls = s.generator.calls ++ [{ delivery := .blocking, messages }]
  ok_iff : ∀ r, result = .ok r ↔ s.Hears id text ∧ v.reply? k = some (.ok r) ∧
    v.isCancelled k = false ∧ (v.archive.append id .assistant r).1.isOk = true
  ok_grew : ∀ r, result = .ok r → s.archive.Grew u.archive id [(.user, text), (.assistant, r)]
  /-- The reply was generated but not recorded. -/
  unsaved_iff : ∀ r, (∃ m c, result = .error (.historyWrite m (some r) c)) ↔
    s.Hears id text ∧ v.reply? k = some (.ok r) ∧ v.isCancelled k = false ∧
      (v.archive.append id .assistant r).1.isOk = false
  unsaved_grew : ∀ m r c, result = .error (.historyWrite m (some r) c) →
    s.archive.Grew u.archive id [(.user, text)]
  failed_grew : ∀ e, result = .error e → e.isGeneration = true ∨ e.isCancelled = true →
    s.archive.Grew u.archive id [(.user, text)]
  /-- The generator was not called, and nothing but the user's message may be recorded. -/
  unheard : ∀ m c, result = .error (.historyWrite m none c) →
    u.generator.calls = s.generator.calls ∧
      s.archive.Grew u.archive id (s.archive.addition id .user text)
  kinds : ∀ e, result = .error e →
    e.isGeneration = true ∨ e.isCancelled = true ∨ e.isHistoryWrite = true
  wraps : ∀ e, v.reply? k = some (.error e) →
    result = .error (if e.isCancelled || e.isGeneration then e
      else .generation "generation failed" (.error e))

variable {s v u : Service} {k : Nat} {id : SessionId} {text : String} {t : Turn}

theorem hears_of_shows {m : Message} {a b : Archive} {messages : List Message}
    (ha : s.archive.append id .user text = (.ok m, a)) (hb : s.Shows id m a messages b) :
    s.Hears id text ∧ s.archive.Grew b id [(.user, text)] := by
  have hgrew := Archive.Grew.of_append_ok ha
  rw [Shows] at hb
  simp only [Hears, ha]
  split at hb
  · next hc =>
    obtain ⟨-, rfl⟩ := hb
    exact ⟨⟨rfl, fun h => by simp [hc] at h⟩, hgrew⟩
  · obtain ⟨tr, hg, -⟩ := hb
    exact ⟨⟨rfl, fun _ => by rw [hg]; rfl⟩, by simpa using hgrew.trans (.of_get hg)⟩

theorem CallMove.since {v' : Service} {t' : Turn} (hm : CallMove v t t' v')
    (ho : v.options = s.options) (hd : t.delivery = .blocking)
    (h : s.Since t.session text v t.stage) : s.Since t.session text v' t'.stage := by
  cases hm with
  | unheard | unread | fail | withdraw | record | lose | refuse => trivial
  | @call _ m a b messages _ _ hs ha hb hg =>
    rw [hs] at h
    obtain ⟨rfl, harchive, hgenerator⟩ := h
    rw [harchive] at ha
    rw [hgenerator, hd] at hg
    have hshows : s.Shows t.session m a messages b := by simpa only [Shows, ho] using hb
    obtain ⟨hhears, hgrew⟩ := hears_of_shows ha hshows
    exact ⟨hhears, hgrew, _, hg⟩
  | reply hs _ ha =>
    rw [hs] at h
    exact ⟨_, h, _, _, _, ha⟩
  | stream hs hd' => simp [hd] at hd'

theorem underway_callAct {act : CallAct} (ha : callAct k v act = some u)
    (h : s.Underway k id text v) : s.Underway k id text u := by
  obtain ⟨ho, t, ht, rfl, hd, hs⟩ := h
  cases act with
  | call =>
    obtain ⟨t₁, t', v', ht₁, hstep, rfl⟩ := step_eq_some_iff.mp ha
    obtain rfl := Option.some.inj (ht.symm.trans ht₁)
    have hm := call_move hstep
    refine ⟨hm.options_eq.trans ho, t', ?_, hm.session_eq, hm.delivery_eq.trans hd,
      hm.since ho hd hs⟩
    obtain ⟨hk, -⟩ := List.getElem?_eq_some_iff.mp ht
    simp [hk]
  | cancel =>
    obtain rfl := Option.some.inj ha
    exact ⟨ho, { t with cancelled := true }, by simp [Service.cancel, update, ht], rfl, hd, hs⟩
  | wait =>
    simp only [callAct] at ha
    split at ha
    · obtain rfl := Option.some.inj ha
      exact ⟨ho, t, ht, rfl, hd, hs⟩
    · cases ha

theorem Called.calls {p : Performance} (h : s.Called u id text p) :
    ∃ messages, u.generator.calls = s.generator.calls ++ [{ delivery := .blocking, messages }] := by
  obtain ⟨-, -, messages, hg⟩ := h
  exact ⟨messages, by rw [← Generator.calls_call, hg]⟩

theorem tells_unheard {m : String} {c : Cause} (hn : ¬ s.Hears id text) (hr : v.reply? k = none)
    (hg : u.generator = s.generator)
    (hgrew : s.archive.Grew u.archive id (s.archive.addition id .user text)) :
    s.Tells v u k id text (.error (.historyWrite m none c)) where
  calls := .inl (by rw [hg])
  ok_iff r := by simp [hn]
  ok_grew r h := by cases h
  unsaved_iff r := by simp [hn]
  unsaved_grew m r c h := by cases h
  failed_grew e h hk := by
    obtain rfl := Except.error.inj h
    simp [Error.isGeneration, Error.isCancelled] at hk
  unheard m c _ := ⟨by rw [hg], hgrew⟩
  kinds e h := by
    obtain rfl := Except.error.inj h
    simp [Error.isHistoryWrite]
  wraps e h := by simp [hr] at h

theorem tells_failed {p : Performance} {e : Error} (hc : s.Called u id text p)
    (hk : e.isGeneration = true ∨ e.isCancelled = true)
    (hn : ∀ r, v.reply? k = some (.ok r) → v.isCancelled k = true)
    (hw : ∀ e', v.reply? k = some (.error e') → e = wrapGeneration e') :
    s.Tells v u k id text (.error e) := by
  have hkind (m : String) (r : Option String) (c : Cause) : e ≠ .historyWrite m r c := by
    rintro rfl
    simp [Error.isGeneration, Error.isCancelled] at hk
  exact {
    calls := .inr hc.calls
    ok_iff := fun r => by
      constructor
      · intro h
        cases h
      · rintro ⟨-, hr, hv, -⟩
        simp [hn r hr] at hv
    ok_grew := fun r h => by cases h
    unsaved_iff := fun r => by
      constructor
      · rintro ⟨m, c, h⟩
        exact absurd (Except.error.inj h) (hkind m (some r) c)
      · rintro ⟨-, hr, hv, -⟩
        simp [hn r hr] at hv
    unsaved_grew := fun m r c h => absurd (Except.error.inj h) (hkind m (some r) c)
    failed_grew := fun _ _ _ => hc.2.1
    unheard := fun m c h => absurd (Except.error.inj h) (hkind m none c)
    kinds := fun e' h => by
      obtain rfl := Except.error.inj h
      exact hk.imp_right .inl
    wraps := fun e' h => congrArg _ (hw e' h) }

theorem tells_recorded {p : Performance} {reply : String} {m : Message} {a : Archive}
    (hc : s.Called v id text p) (hr : v.reply? k = some (.ok reply))
    (hn : v.isCancelled k = false) (ha : v.archive.append id .assistant reply = (.ok m, a)) :
    s.Tells v { v with archive := a } k id text (.ok reply) where
  calls := .inr hc.calls
  ok_iff r := by
    constructor
    · intro h
      obtain rfl := Except.ok.inj h
      exact ⟨hc.1, hr, hn, by rw [ha]; rfl⟩
    · rintro ⟨-, h, -⟩
      exact Option.some.inj (hr.symm.trans h)
  ok_grew r h := by
    obtain rfl := Except.ok.inj h
    exact hc.2.1.trans (.of_append_ok ha)
  unsaved_iff r := by
    constructor
    · rintro ⟨m, c, h⟩
      cases h
    · rintro ⟨-, h, -, hlost⟩
      obtain rfl := Except.ok.inj (Option.some.inj (hr.symm.trans h))
      rw [ha] at hlost
      cases hlost
  unsaved_grew m r c h := by cases h
  failed_grew e h := by cases h
  unheard m c h := by cases h
  kinds e h := by cases h
  wraps e h := by simp [hr] at h

theorem tells_lost {p : Performance} {m reply : String} {c : Cause} {cause : Error} {a : Archive}
    (hc : s.Called v id text p) (hr : v.reply? k = some (.ok reply))
    (hn : v.isCancelled k = false) (ha : v.archive.append id .assistant reply = (.error cause, a)) :
    s.Tells v { v with archive := a } k id text (.error (.historyWrite m (some reply) c)) := by
  have hgrew : s.archive.Grew a id [(.user, text)] := by
    simpa using hc.2.1.trans (.of_append_error ha)
  exact {
    calls := .inr hc.calls
    ok_iff := fun r => by
      constructor
      · intro h
        cases h
      · rintro ⟨-, h, -, hok⟩
        obtain rfl := Except.ok.inj (Option.some.inj (hr.symm.trans h))
        rw [ha] at hok
        cases hok
    ok_grew := fun r h => by cases h
    unsaved_iff := fun r => by
      constructor
      · rintro ⟨m, c, h⟩
        cases h
        exact ⟨hc.1, hr, hn, by rw [ha]; rfl⟩
      · rintro ⟨-, h, -⟩
        obtain rfl := Except.ok.inj (Option.some.inj (hr.symm.trans h))
        exact ⟨m, c, rfl⟩
    unsaved_grew := fun _ _ _ _ => hgrew
    failed_grew := fun _ _ _ => hgrew
    unheard := fun m c h => by cases h
    kinds := fun e h => by
      obtain rfl := Except.error.inj h
      exact .inr (.inr rfl)
    wraps := fun e h => by simp [hr] at h }

theorem Tells.setTurns {result : Except Error String} (h : s.Tells v u k id text result)
    (turns : List Turn) : s.Tells v { u with turns } k id text result :=
  ⟨h.calls, h.ok_iff, h.ok_grew, h.unsaved_iff, h.unsaved_grew, h.failed_grew, h.unheard, h.kinds,
    h.wraps⟩

theorem wrapGeneration_kind (e : Error) :
    (wrapGeneration e).isGeneration = true ∨ (wrapGeneration e).isCancelled = true := by
  rw [wrapGeneration]
  split
  · next h => simpa [or_comm] using h
  · exact .inl rfl

theorem CallMove.tells {v' : Service} {t' : Turn} {result : Except Error String}
    (hm : CallMove v t t' v') (ht : v.turns[k]? = some t) (ho : v.options = s.options)
    (hd : t.delivery = .blocking) (h : s.Since t.session text v t.stage)
    (hr : t'.stage = .answered result) : s.Tells v v' k t.session text result := by
  cases hm with
  | @unheard said cause a hs ha =>
    rw [hs] at h
    obtain ⟨rfl, harchive, hgenerator⟩ := h
    obtain rfl := Turn.Stage.answered.inj hr
    rw [harchive] at ha
    refine tells_unheard (fun hh => ?_) (by simp [reply?, ht, hs]) hgenerator ?_
    · simp [Hears, ha, Except.isOk, Except.toBool] at hh
    · have hgrew := s.archive.grew_append t.session .user said
      rwa [ha] at hgrew
  | @unread said m a b cause hs ha hc hb =>
    rw [hs] at h
    obtain ⟨rfl, harchive, hgenerator⟩ := h
    obtain rfl := Turn.Stage.answered.inj hr
    rw [harchive] at ha
    refine tells_unheard (fun hh => ?_) (by simp [reply?, ht, hs]) hgenerator ?_
    · simp [Hears, ← ho, hc, ha, hb, Except.isOk, Except.toBool] at hh
    · have hgrew := s.archive.grew_append t.session .user said
      rw [ha] at hgrew
      simpa using hgrew.trans (.of_get hb)
  | fail hs =>
    rw [hs] at h
    obtain ⟨p, hcalled, -⟩ := h
    obtain rfl := Turn.Stage.answered.inj hr
    exact tells_failed hcalled (wrapGeneration_kind _) (by simp [reply?, ht, hs])
      (by simp [reply?, ht, hs])
  | withdraw hs hc =>
    rw [hs] at h
    obtain ⟨p, hcalled, -⟩ := h
    obtain rfl := Turn.Stage.answered.inj hr
    exact tells_failed hcalled (.inr rfl) (fun _ _ => by simp [isCancelled, ht, hc])
      (by simp [reply?, ht, hs])
  | record hs hc ha =>
    rw [hs] at h
    obtain ⟨p, hcalled, -⟩ := h
    obtain rfl := Turn.Stage.answered.inj hr
    exact tells_recorded hcalled (by simp [reply?, ht, hs]) (by simp [isCancelled, ht, hc]) ha
  | lose hs hc ha =>
    rw [hs] at h
    obtain ⟨p, hcalled, -⟩ := h
    obtain rfl := Turn.Stage.answered.inj hr
    exact tells_lost hcalled (by simp [reply?, ht, hs]) (by simp [isCancelled, ht, hc]) ha
  | refuse _ hd' => simp [hd] at hd'
  | call | reply | stream => cases hr

/-- The stage of a turn tells what the generator has answered, and what the call has. -/
theorem told_by_stage {x : Except Error String} :
    (s.reply? k = some x ↔ (s.turns[k]?).map Turn.stage = some (.replied x)) ∧
      (s.answer? k = some x ↔ (s.turns[k]?).map Turn.stage = some (.answered x)) := by
  rw [reply?, answer?]
  rcases (s.turns[k]?).map Turn.stage with _ | stage
  · simp
  · cases stage <;> simp

theorem reply?_eq_some_iff {answer : Except Error String} :
    s.reply? k = some answer ↔ ∃ t, s.turns[k]? = some t ∧ t.stage = .replied answer :=
  told_by_stage.1.trans Option.map_eq_some_iff

theorem answer?_eq_some_iff {result : Except Error String} :
    s.answer? k = some result ↔ ∃ t, s.turns[k]? = some t ∧ t.stage = .answered result :=
  told_by_stage.2.trans Option.map_eq_some_iff

theorem returns_of_reply {answer : Except Error String} (h : s.reply? k = some answer) :
    ∃ u result, s.step k .call = some u ∧ u.answer? k = some result := by
  obtain ⟨t, ht, hs⟩ := reply?_eq_some_iff.mp h
  obtain ⟨hk, -⟩ := List.getElem?_eq_some_iff.mp ht
  have hstep : s.turnStep t .call = some (s.takeReply t answer) := by simp [turnStep, callStep, hs]
  obtain ⟨result, hr⟩ : ∃ result, (s.takeReply t answer).1.stage = .answered result := by
    cases answer with
    | error e => exact ⟨_, rfl⟩
    | ok reply =>
      rw [takeReply]
      split <;> exact ⟨_, rfl⟩
  refine ⟨_, result, step_eq_some_iff.mpr ⟨t, _, _, ht, hstep, rfl⟩, ?_⟩
  exact answer?_eq_some_iff.mpr ⟨(s.takeReply t answer).1, List.getElem?_set_self hk, hr⟩

/-- The result of a call that asks for a whole reply tells what the call has added to the transcript
and whether the generator was called. -/
theorem outcome_tells_effect {s v : Service} {k : Nat} {t : Turn} {text : String}
    {acts : List CallAct} (ht : s.turns[k]? = some t) (hd : t.delivery = .blocking)
    (hs : t.stage = .asked text) (h : acts.foldlM (callAct k) s = some v) :
    (∀ answer, v.reply? k = some answer →
      (∃ messages due now c,
        (s.generator.call .blocking messages).1.reply? due now c = some answer) ∧
      ∃ u result, v.step k .call = some u ∧ u.answer? k = some result) ∧
    ∀ u result, v.step k .call = some u → u.answer? k = some result →
      s.Tells v u k t.session text result := by
  have hunder : s.Underway k t.session text v :=
    keeps_foldlM (fun _ hw ha => underway_callAct ha hw) h
      ⟨rfl, t, ht, rfl, hd, by rw [hs]; exact ⟨rfl, rfl, rfl⟩⟩
  obtain ⟨ho, t₁, ht₁, hid, hd₁, hsince⟩ := hunder
  refine ⟨fun answer hr => ⟨?_, returns_of_reply hr⟩, fun u result hu hr => ?_⟩
  · obtain ⟨t₂, ht₂, hs₂⟩ := reply?_eq_some_iff.mp hr
    obtain rfl := Option.some.inj (ht₁.symm.trans ht₂)
    rw [hs₂] at hsince
    obtain ⟨p, ⟨-, -, messages, hg⟩, due, now, c, ha⟩ := hsince
    exact ⟨messages, due, now, c, by rw [hg]; exact ha⟩
  · obtain ⟨t₂, t', v', ht₂, hstep, rfl⟩ := step_eq_some_iff.mp hu
    obtain rfl := Option.some.inj (ht₁.symm.trans ht₂)
    obtain ⟨hk, -⟩ := List.getElem?_eq_some_iff.mp ht₁
    obtain ⟨t₃, ht₃, hs₃⟩ := answer?_eq_some_iff.mp hr
    obtain rfl : t' = t₃ := by simpa [hk] using ht₃
    rw [← hid] at hsince ⊢
    exact ((call_move hstep).tells ht₁ ho hd₁ hsince hs₃).setTurns _

/-- A turn that is answered, and the same turn cancelled between the generator's answer and its
record. -/
theorem outcome_tells_effect_hello :
    let p : Performance := { whole := .reply "Hi", streamed := .error Generator.exhausted }
    let s : Service :=
      ({ archive := (Archive.create { clock := default }).2, generator := { script := [p] } } :
        Service).ask (.ofSerial 1) .blocking "Hello"
    (∃ v u, [.call, .call].foldlM (callAct 0) s = some v ∧ v.step 0 .call = some u ∧
        u.answer? 0 = some (.ok "Hi") ∧
        s.archive.Grew u.archive (.ofSerial 1) [(.user, "Hello"), (.assistant, "Hi")]) ∧
      ∃ v u, [.call, .call, .cancel].foldlM (callAct 0) s = some v ∧ v.step 0 .call = some u ∧
        u.answer? 0 = some (.error turnCancelled) ∧
        s.archive.Grew u.archive (.ofSerial 1) [(.user, "Hello")] := by
  intro p s
  obtain ⟨t, ht, hd, hs, hid⟩ : ∃ t, s.turns[0]? = some t ∧ t.delivery = .blocking ∧
      t.stage = .asked "Hello" ∧ t.session = .ofSerial 1 := ⟨_, rfl, rfl, rfl, rfl⟩
  constructor
  · obtain ⟨v, hv, u, hu, hr⟩ : ∃ v, [.call, .call].foldlM (callAct 0) s = some v ∧
        ∃ u, v.step 0 .call = some u ∧ u.answer? 0 = some (.ok "Hi") := ⟨_, rfl, _, rfl, rfl⟩
    have htells := (outcome_tells_effect ht hd hs hv).2 u _ hu hr
    exact ⟨v, u, hv, hu, hr, hid ▸ htells.ok_grew _ rfl⟩
  · obtain ⟨v, hv, u, hu, hr⟩ : ∃ v, [.call, .call, .cancel].foldlM (callAct 0) s = some v ∧
        ∃ u, v.step 0 .call = some u ∧ u.answer? 0 = some (.error turnCancelled) :=
      ⟨_, rfl, _, rfl, rfl⟩
    have htells := (outcome_tells_effect ht hd hs hv).2 u _ hu hr
    exact ⟨v, u, hv, hu, hr, hid ▸ htells.failed_grew _ rfl (.inr rfl)⟩

end Service

end Parley
