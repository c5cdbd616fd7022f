import Parley.Proofs.Session.Turns
import Parley.Proofs.Turn.Onward

/-! # What a turn adds

What a turn has added to the transcript of its session can be read off its stage: nothing as long as
the user was not heard, then what the user said, and in the end the reply, if it was recorded.
-/

namespace Parley

namespace Relay

/-- The reply that a relay has recorded if it ends like this after gathering some text. -/
def Outcome.reply? (text : String) : Outcome → Option String
  | .completed reply persisted | .hungUp reply persisted => if persisted then some reply else none
  | .failed persisted => if persisted then some text else none
  | .cancelled => none

def reply? (r : Relay) : Option String :=
  match r.stage with
  | .forwarding i persisted => if i.isLast && persisted then some r.text else none
  | .closing o | .ended o => o.reply? r.text
  | _ => none

def kept (r : Relay) : List (Role × String) :=
  r.reply?.toList.map (.assistant, ·)

variable {cancelled : Bool} {r r' : Relay} {a a' : Archive} {i : Increment} {p : Bool}
  {text : String}

theorem kept_of_reply?_eq_none (h : r.reply? = none) : r.kept = [] := by
  rw [kept, h]
  rfl

theorem reply?_passed (hs : r.stage = .forwarding i p) : (r.passed i p).reply? = r.reply? := by
  rw [reply?, reply?, hs]
  rcases i.kinds with ⟨he, hl, -⟩ | ⟨he, hl, -⟩ | ⟨he, hl, -⟩ <;>
    simp [passed, he, hl, Outcome.reply?]

theorem reply?_withdrawn (hs : r.stage = .forwarding i p) :
    (r.withdrawn i p).reply? = r.reply? := by
  rw [reply?, reply?, hs]
  cases hl : i.isLast <;> simp [withdrawn, hl, Outcome.reply?]

theorem kept_of_record (hr : r.record a text = (p, a')) :
    a.Gained a' r.session (if p then [(.assistant, text)] else []) := by
  obtain ⟨rfl, rfl⟩ := Prod.mk.inj ((record_eq ..).symm.trans hr)
  exact (a.grew_append r.session .assistant text).gained

theorem Move.gained (h : Move cancelled r a r' a') :
    ∃ more, a.Gained a' r.session more ∧ r'.kept = r.kept ++ more := by
  have hquiet (he : r'.reply? = r.reply?) (ha : a' = a) :
      ∃ more, a.Gained a' r.session more ∧ r'.kept = r.kept ++ more :=
    ⟨[], ha ▸ .refl a r.session, by rw [kept, he, List.append_nil, kept]⟩
  cases h with
  | cancel hs | take hs | hangUp hs | holdFailure hs he | gather hs he | finish hs =>
    refine hquiet ?_ rfl
    simp_all [reply?, Outcome.reply?, Increment.isLast, Increment.isTerminal, Relay.finish]
  | dropPartial hs =>
    refine hquiet ?_ rfl
    simp [reply?, hs, Outcome.reply?]
  | skip hs => exact hquiet (reply?_passed hs) rfl
  | withdraw hs => exact hquiet (reply?_withdrawn hs) rfl
  | pass hs | loseReader hs =>
    refine hquiet ((reply?_passed (by exact hs)).trans ?_) rfl
    simp [reply?, hs]
  | @complete i p _ hs hl hr =>
    refine ⟨_, kept_of_record hr, ?_⟩
    rw [kept_of_reply?_eq_none (r := r) (by simp [reply?, hs])]
    cases p <;> simp [kept, reply?, hl]
  | @keepPartial p _ hs _ _ hr | @keepRest p _ hs hr =>
    refine ⟨_, kept_of_record hr, ?_⟩
    rw [kept_of_reply?_eq_none (r := r) (by simp [reply?, hs])]
    cases p <;> simp [kept, reply?, Outcome.reply?]

/-- The store has taken what the relay gave it. -/
def Unrefused : Stage → Prop
  | .forwarding i persisted => i.isLast = true → persisted = true
  | .closing o | .ended o =>
    match o with
    | .completed _ persisted | .hungUp _ persisted => persisted = true
    | _ => True
  | _ => True

theorem unrefused_passed (h : Unrefused (.forwarding i p)) : Unrefused (r.passed i p).stage := by
  rcases passed_cases r i p with ⟨-, he⟩ | ⟨hl, he⟩ | ⟨-, he⟩ <;> rw [he]
  · trivial
  · exact h hl
  · trivial

theorem unrefused_withdrawn (h : Unrefused (.forwarding i p)) :
    Unrefused (r.withdrawn i p).stage := by
  rcases withdrawn_cases r i p with ⟨hl, he⟩ | ⟨-, he⟩ <;> rw [he]
  · exact h hl
  · trivial

theorem record_of_unfailing (ha : a.Unfailing) (hid : (a.find? r.session).isSome)
    (hr : r.record a text = (p, a')) : p = true := by
  obtain ⟨m, b, hb⟩ := ha.append hid .assistant text
  rw [record, hb] at hr
  exact (Prod.mk.inj hr).1.symm

theorem Move.unrefused (hm : Move cancelled r a r' a') (ha : a.Unfailing)
    (hid : (a.find? r.session).isSome) (h : Unrefused r.stage) : Unrefused r'.stage := by
  cases hm with
  | skip hs | pass hs | loseReader hs =>
    rw [hs] at h
    exact unrefused_passed h
  | withdraw hs =>
    rw [hs] at h
    exact unrefused_withdrawn h
  | complete hs hl hr => exact fun _ => record_of_unfailing ha hid hr
  | keepRest hs hr => exact record_of_unfailing ha hid hr
  | holdFailure hs he =>
    intro hl
    simp [Increment.isLast, he] at hl
  | gather hs ht =>
    intro hl
    simp [Increment.isTerminal_of_isLast hl] at ht
  | finish hs =>
    rw [hs] at h
    exact h
  | _ => trivial

end Relay

namespace Turn

/-- What a call has added to the transcript when it has ended. A history that cannot be written is
either the user's message that was refused, or that message recorded and then not read back. -/
def Returned (text : String) (context : ContextPolicy) (added : List (Role × String)) :
    Except Error String → Prop
  | .ok reply => added = [(.user, text), (.assistant, reply)]
  | .error (.historyWrite m none _) =>
    m = "could not record user message" ∧ added = [] ∨
      m = "could not read transcript" ∧ context = .fullTranscript ∧ added = [(.user, text)]
  | .error _ => added = [(.user, text)]

/-- What a turn that began with some text has added to the transcript, at every stage. -/
def Added (text : String) (context : ContextPolicy) (added : List (Role × String)) : Stage → Prop
  | .asked said => said = text ∧ added = []
  | .generating .. | .replied _ => added = [(.user, text)]
  | .answered result => Returned text context added result
  | .streaming _ relay => added = (.user, text) :: relay.kept

/-- No turn of this stage was refused anything by the store. -/
def Unrefused : Stage → Prop
  | .answered (.error e) => e.isHistoryWrite = false
  | .streaming _ relay => Relay.Unrefused relay.stage
  | _ => True

end Turn

namespace Service

open Turn (Added Returned Unrefused)

variable {s s' : Service} {t t' : Turn} {text : String} {added : List (Role × String)}
  {context : ContextPolicy}

theorem returned_error {e : Error} (h : ∀ m c, e ≠ .historyWrite m none c) :
    Returned text context [(.user, text)] (.error e) := by
  unfold Returned
  split
  · next he => cases he
  · next m c he => exact absurd (Except.error.inj he) (h m c)
  · rfl

theorem returned_wrapGeneration (e : Error) :
    Returned text context [(.user, text)] (.error (wrapGeneration e)) := by
  refine returned_error fun m c he => ?_
  rw [wrapGeneration] at he
  split at he
  · next h => simp [he, Error.isCancelled, Error.isGeneration] at h
  · cases he

theorem CallMove.adds (hm : CallMove s t t' s') (h : Added text s.options.context added t.stage) :
    ∃ more, s.archive.Gained s'.archive t.session more ∧
      Added text s.options.context (added ++ more) t'.stage := by
  have hquiet {stage : Turn.Stage} (hs : Added text s.options.context added stage) :
      ∃ more, s.archive.Gained s.archive t.session more ∧
        Added text s.options.context (added ++ more) stage :=
    ⟨[], .refl .., by rwa [List.append_nil]⟩
  cases hm with
  | unheard hs ha =>
    rw [hs] at h
    exact ⟨[], (Archive.Grew.of_append_error ha).gained, .inl ⟨rfl, by simpa using h.2⟩⟩
  | unread hs ha hc hb =>
    rw [hs] at h
    obtain ⟨rfl, rfl⟩ := h
    have hgrew := (Archive.Grew.of_append_ok ha).gained
    exact ⟨_, hgrew.of_find?_eq (Archive.find?_of_get hb _), .inr ⟨rfl, hc, rfl⟩⟩
  | @call said m a b _ _ _ hs ha hb _ =>
    rw [hs] at h
    obtain ⟨rfl, rfl⟩ := h
    have hgrew := (Archive.Grew.of_append_ok ha).gained
    exact ⟨_, hgrew.of_find?_eq (hb.find?_eq _), rfl⟩
  | reply hs =>
    rw [hs] at h
    exact hquiet h
  | refuse hs | fail hs =>
    rw [hs] at h
    obtain rfl := h
    exact hquiet (returned_wrapGeneration _)
  | stream hs =>
    rw [hs] at h
    exact hquiet h
  | withdraw hs =>
    rw [hs] at h
    exact hquiet h
  | record hs _ ha =>
    rw [hs] at h
    obtain rfl := h
    exact ⟨_, (Archive.Grew.of_append_ok ha).gained, rfl⟩
  | lose hs _ ha =>
    rw [hs] at h
    obtain rfl := h
    exact ⟨[], (Archive.Grew.of_append_error ha).gained, rfl⟩

theorem Move.adds (hm : Move s t t' s')
    (hr : ∀ feed relay, t.stage = .streaming feed relay → relay.session = t.session)
    (h : Added text s.options.context added t.stage) :
    ∃ more, s.archive.Gained s'.archive t.session more ∧
      Added text s.options.context (added ++ more) t'.stage := by
  cases hm with
  | call hm => exact hm.adds h
  | feed hs =>
    rw [hs] at h
    exact ⟨[], .refl .., by simpa [Added, Relay.kept, Relay.reply?] using h⟩
  | relay hs hm =>
    rw [hs] at h
    obtain ⟨more, hgained, hkept⟩ := hm.gained
    refine ⟨more, hr _ _ hs ▸ hgained, ?_⟩
    obtain rfl := h
    rw [Added, hkept]
    rfl

theorem unrefused_wrapGeneration (e : Error) :
    Unrefused (.answered (.error (wrapGeneration e))) := by
  unfold wrapGeneration
  split
  · next h => cases e <;> simp_all [Unrefused, Error.isHistoryWrite, Error.isCancelled,
      Error.isGeneration]
  · rfl

theorem CallMove.unrefused (hm : CallMove s t t' s') (ha : s.archive.Unfailing)
    (hid : (s.archive.find? t.session).isSome) : Unrefused t'.stage := by
  cases hm with
  | @unheard said _ _ _ hc =>
    obtain ⟨m, b, hb⟩ := ha.append hid .user said
    simp [hb] at hc
  | unread _ hc _ hg =>
    have hb := ha.of_faults_eq (Archive.faults_of_append hc)
    have hknown := (Archive.Grew.of_append_ok hc).pairs (Option.get_mem hid)
    obtain ⟨tr, htr, -⟩ := hknown
    obtain ⟨tr', c, hc'⟩ := hb.get (Option.isSome_iff_exists.mpr ⟨tr, htr⟩)
    simp [hc'] at hg
  | @lose reply _ _ _ _ hc =>
    obtain ⟨m, b, hb⟩ := ha.append hid .assistant reply
    simp [hb] at hc
  | refuse | fail => exact unrefused_wrapGeneration _
  | withdraw => exact rfl
  | _ => trivial

theorem Move.unrefused (hm : Move s t t' s') (ha : s.archive.Unfailing)
    (hid : (s.archive.find? t.session).isSome)
    (hr : ∀ feed relay, t.stage = .streaming feed relay → relay.session = t.session)
    (h : Unrefused t.stage) : Unrefused t'.stage := by
  cases hm with
  | call hm => exact hm.unrefused ha hid
  | feed hs =>
    rw [hs] at h
    exact h
  | relay hs hm =>
    rw [hs] at h
    exact hm.unrefused ha (hr _ _ hs ▸ hid) h

/-- A turn under way, compared with its beginning, among turns that leave its session alone. -/
structure Follows (s : Service) (k : Nat) (id : SessionId) (text : String)
    (added : List (Role × String)) (t : Turn) (v : Service) : Prop where
  onward : Onward s v
  others : ∀ (i : Nat) (u : Turn), v.turns[i]? = some u → i ≠ k → u.Harmless id
  here : v.turns[k]? = some t
  session_eq : t.session = id
  relay_eq : ∀ feed relay, t.stage = .streaming feed relay → relay.session = id
  gained : s.archive.Gained v.archive id added
  added : Added text s.options.context added t.stage
  unrefused : s.archive.Unfailing → (s.archive.find? id).isSome → Unrefused t.stage

variable {v u : Service} {k i : Nat} {id : SessionId} {p : Turn.Part}

theorem Move.relay_eq (hm : Move s t t' s') (ht : t.session = id)
    (h : ∀ feed relay, t.stage = .streaming feed relay → relay.session = id) :
    ∀ feed relay, t'.stage = .streaming feed relay → relay.session = id := by
  intro feed relay hs
  cases hm with
  | call hm =>
    cases hm with
    | stream =>
      obtain ⟨-, rfl⟩ := Turn.Stage.streaming.inj hs
      exact ht
    | _ => cases hs
  | feed hs' =>
    obtain ⟨-, rfl⟩ := Turn.Stage.streaming.inj hs
    have hsession := h _ _ hs'
    exact hsession
  | relay hs' hm =>
    obtain ⟨-, rfl⟩ := Turn.Stage.streaming.inj hs
    exact hm.session_eq.trans (h _ _ hs')

theorem follows_asked (ht : s.turns[k]? = some t) (hs : t.stage = .asked text)
    (hothers : ∀ (i : Nat) (u : Turn), s.turns[i]? = some u → i ≠ k → u.Harmless t.session) :
    Follows s k t.session text [] t s where
  onward := .refl s
  others := hothers
  here := ht
  session_eq := rfl
  relay_eq feed relay h := by simp [hs] at h
  gained := .refl ..
  added := by
    rw [hs]
    exact ⟨rfl, rfl⟩
  unrefused _ _ := by
    rw [hs]
    trivial

theorem Follows.own {v' : Service} (h : Follows s k id text added t v)
    (hstep : v.turnStep t p = some (t', v')) :
    ∃ more, Follows s k id text (added ++ more) t' { v' with turns := v.turns.set k t' } := by
  obtain ⟨hk, -⟩ := List.getElem?_eq_some_iff.mp h.here
  have hm := turnStep_move hstep
  have hrelay : ∀ feed relay, t.stage = .streaming feed relay → relay.session = t.session :=
    fun feed relay hs => (h.relay_eq feed relay hs).trans h.session_eq.symm
  obtain ⟨more, hgained, hadded⟩ := hm.adds hrelay (h.onward.options ▸ h.added)
  refine ⟨more, h.onward.trans (hm.onward_set h.here), ?_, List.getElem?_set_self hk,
    hm.session_eq.trans h.session_eq, hm.relay_eq h.session_eq h.relay_eq,
    h.gained.trans (h.session_eq ▸ hgained), ?_, fun ha hid => ?_⟩
  · intro i w hw hi
    rcases Session.getElem?_set_cases hw with ⟨-, rfl⟩ | ⟨hw, -⟩
    · exact absurd rfl hi
    · exact h.others i w hw hi
  · rwa [h.onward.options] at hadded
  · have hfind : (v.archive.find? t.session).isSome := h.session_eq ▸ h.gained.isSome hid
    exact hm.unrefused (ha.of_faults_eq h.onward.faults) hfind hrelay (h.unrefused ha hid)

theorem Follows.other (h : Follows s k id text added t v) (hu : v.step i p = some u)
    (hi : i ≠ k) : Follows s k id text added t u := by
  obtain ⟨t₁, t', v', ht₁, hstep, rfl⟩ := step_eq_some_iff.mp hu
  have hm := turnStep_move hstep
  obtain ⟨ht', hfind⟩ := hm.harmless (h.others i t₁ ht₁ hi)
  refine ⟨h.onward.trans (onward_of_step hu), ?_, ?_, h.session_eq, h.relay_eq,
    h.gained.of_find?_eq hfind, h.added, h.unrefused⟩
  · intro j w hw hj
    rcases Session.getElem?_set_cases hw with ⟨rfl, -⟩ | ⟨hw, -⟩
    · exact ht'
    · exact h.others j w hw hj
  · rw [List.getElem?_set_ne hi]
    exact h.here

/-- Whatever is done to turns beside their session and their stage has no effect on what they add. -/
theorem Follows.of_core (h : Follows s k id text added t v) (ho : Onward v u)
    (hfind : u.archive.find? id = v.archive.find? id)
    (hcore : u.turns.map Turn.core = v.turns.map Turn.core) :
    ∃ t', t'.core = t.core ∧ Follows s k id text added t' u := by
  obtain ⟨t', ht', hc⟩ := Session.getElem?_of_core hcore.symm h.here
  obtain ⟨hs, hstage⟩ := Prod.mk.inj hc
  refine ⟨t', hc.symm, h.onward.trans ho, ?_, ht', hs ▸ h.session_eq, hstage ▸ h.relay_eq,
    h.gained.of_find?_eq hfind, hstage ▸ h.added, hstage ▸ h.unrefused⟩
  intro i w hw hi
  obtain ⟨w', hw', hc'⟩ := Session.getElem?_of_core hcore hw
  exact Session.harmless_of_core (h.others i w' hw' hi) hc'

theorem Follows.updateSink {feed : Feed} {relay : Relay} (h : Follows s k id text added t v)
    (hs : t.stage = .streaming feed relay) (sink : Channel Increment) :
    Follows s k id text added { t with stage := .streaming feed { relay with sink } }
      (v.updateSink k fun _ => sink) := by
  refine ⟨h.onward.trans (onward_updateSink v k _), ?_, ?_, h.session_eq, ?_, h.gained, ?_,
    fun ha hid => ?_⟩
  · intro i u hu hi
    simp only [Service.updateSink, update, List.getElem?_modify, if_neg (Ne.symm hi)] at hu
    exact h.others i u (by simpa using hu) hi
  · simp [Service.updateSink, update, h.here, hs]
  · intro feed' relay' hs'
    obtain ⟨rfl, rfl⟩ := Turn.Stage.streaming.inj hs'
    have hsession := h.relay_eq _ _ hs
    exact hsession
  · have hadded := h.added
    rw [hs] at hadded
    exact hadded
  · have hunrefused := h.unrefused ha hid
    rw [hs] at hunrefused
    exact hunrefused

end Service

end Parley
