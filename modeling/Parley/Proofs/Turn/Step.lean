import Parley.Service
import Parley.Proofs.Archive.Growth
import Parley.Proofs.Relay.Step

/-! # Steps of a turn

What a single step of a turn can do to the turn and to the service: the call records, generates and
records again, the feed sends, and the relay makes its own moves.
-/

namespace Parley.Service

variable {s s' u : Service} {t t' : Turn} {k : Nat} {part : Turn.Part}

/-- What the generator is shown of a session whose last message was just recorded. -/
def Shows (s : Service) (id : SessionId) (m : Message) (a : Archive) (messages : List Message)
    (b : Archive) : Prop :=
  match s.options.context with
  | .currentTurn => messages = [m] ∧ b = a
  | .fullTranscript => ∃ tr, a.get id = (.ok tr, b) ∧ messages = tr.messages

theorem recordUser_ok {id : SessionId} {text : String} {messages : List Message}
    (h : s.recordUser id text = (.ok messages, s')) :
    ∃ m a b, s.archive.append id .user text = (.ok m, a) ∧ s.Shows id m a messages b ∧
      s' = { s with archive := b } := by
  rw [recordUser] at h
  split at h
  · cases h
  · next m a ha =>
    split at h
    · next hc =>
      obtain ⟨hm, rfl⟩ := Prod.mk.inj h
      exact ⟨m, a, a, ha, by simp [Shows, hc, Except.ok.inj hm], rfl⟩
    · next hc =>
      split at h
      · cases h
      · next tr b hb =>
        obtain ⟨hm, rfl⟩ := Prod.mk.inj h
        exact ⟨m, a, b, ha, by simp [Shows, hc, hb, Except.ok.inj hm], rfl⟩

theorem recordUser_error {id : SessionId} {text : String} {e : Error}
    (h : s.recordUser id text = (.error e, s')) :
    (∃ cause a, s.archive.append id .user text = (.error cause, a) ∧
        e = .historyWrite "could not record user message" none (.error cause) ∧
        s' = { s with archive := a }) ∨
      ∃ m a cause b, s.archive.append id .user text = (.ok m, a) ∧
        s.options.context = .fullTranscript ∧ a.get id = (.error cause, b) ∧
        e = .historyWrite "could not read transcript" none (.error cause) ∧
        s' = { s with archive := b } := by
  rw [recordUser] at h
  split at h
  · next cause a ha =>
    obtain ⟨he, rfl⟩ := Prod.mk.inj h
    exact .inl ⟨cause, a, ha, (Except.error.inj he).symm, rfl⟩
  · next m a ha =>
    split at h
    · cases h
    · next hc =>
      split at h
      · next cause b hb =>
        obtain ⟨he, rfl⟩ := Prod.mk.inj h
        exact .inr ⟨m, a, cause, b, ha, hc, hb, (Except.error.inj he).symm, rfl⟩
      · cases h

inductive CallMove (s : Service) (t : Turn) : Turn → Service → Prop where

  | unheard {text : String} {cause : Error} {a : Archive} : t.stage = .asked text →
      s.archive.append t.session .user text = (.error cause, a) →
      CallMove s t
        { t with stage := .answered (.error
            (.historyWrite "could not record user message" none (.error cause))) }
        { s with archive := a }

  | unread {text : String} {m : Message} {a b : Archive} {cause : Error} : t.stage = .asked text →
      s.archive.append t.session .user text = (.ok m, a) → s.options.context = .fullTranscript →
      a.get t.session = (.error cause, b) →
      CallMove s t
        { t with stage := .answered (.error
            (.historyWrite "could not read transcript" none (.error cause))) }
        { s with archive := b }

  | call {text : String} {m : Message} {a b : Archive} {messages : List Message} {p : Performance}
      {g : Generator} : t.stage = .asked text →
      s.archive.append t.session .user text = (.ok m, a) → s.Shows t.session m a messages b →
      s.generator.call t.delivery messages = (p, g) →
      CallMove s t { t with stage := .generating p (s.now + p.delay) }
        { s with
          archive := b
          generator := g
          alarms := s.alarms ++ p.signals.map fun x => (s.now + x.1, x.2) }

  | reply {p : Performance} {due : Nat} {answer : Except Error String} :
      t.stage = .generating p due → t.delivery = .blocking →
      p.reply? due s.now t.cancelled = some answer →
      CallMove s t { t with stage := .replied answer } s

  | refuse {p : Performance} {due : Nat} {e : Error} :
      t.stage = .generating p due → t.delivery = .streaming →
      p.stream? due s.now t.cancelled = some (.error e) →
      CallMove s t { t with stage := .answered (.error (wrapGeneration e)) } s

  | stream {p : Performance} {due : Nat} {plan : StreamPlan} :
      t.stage = .generating p due → t.delivery = .streaming →
      p.stream? due s.now t.cancelled = some (.ok plan) →
      CallMove s t { t with stage := .streaming (.start plan s.now) (s.relayFor t plan) } s

  | fail {e : Error} : t.stage = .replied (.error e) →
      CallMove s t { t with stage := .answered (.error (wrapGeneration e)) } s

  | withdraw {reply : String} : t.stage = .replied (.ok reply) → t.cancelled = true →
      CallMove s t { t with stage := .answered (.error turnCancelled) } s

  | record {reply : String} {m : Message} {a : Archive} : t.stage = .replied (.ok reply) →
      t.cancelled = false → s.archive.append t.session .assistant reply = (.ok m, a) →
      CallMove s t { t with stage := .answered (.ok reply) } { s with archive := a }

  | lose {reply : String} {cause : Error} {a : Archive} : t.stage = .replied (.ok reply) →
      t.cancelled = false → s.archive.append t.session .assistant reply = (.error cause, a) →
      CallMove s t
        { t with stage := .answered (.error
            (.historyWrite "reply generated but not recorded" (some reply) (.error cause))) }
        { s with archive := a }

theorem begin_move {text : String} (ht : t.stage = .asked text) :
    CallMove s t (s.begin t text).1 (s.begin t text).2 := by
  rw [begin]
  split
  · next h =>
    rcases recordUser_error h with ⟨cause, a, ha, rfl, rfl⟩ | ⟨m, a, cause, b, ha, hc, hb, rfl, rfl⟩
    · exact .unheard ht ha
    · exact .unread ht ha hc hb
  · next h =>
    obtain ⟨m, a, b, ha, hb, rfl⟩ := recordUser_ok h
    exact .call ht ha hb rfl

theorem takeReply_move {answer : Except Error String} (ht : t.stage = .replied answer) :
    CallMove s t (s.takeReply t answer).1 (s.takeReply t answer).2 := by
  cases answer with
  | error e => exact .fail ht
  | ok reply =>
    rw [takeReply]
    split
    · exact .withdraw ht ‹_›
    · have hc : t.cancelled = false := by simpa using ‹¬ t.cancelled = true›
      rw [recordReply]
      rcases ha : s.archive.append t.session .assistant reply with ⟨_ | m, a⟩
      · exact .lose ht hc ha
      · exact .record ht hc ha

theorem call_move (h : s.callStep t = some (t', s')) : CallMove s t t' s' := by
  rw [callStep] at h
  split at h
  · obtain ⟨rfl, rfl⟩ := Prod.mk.inj (Option.some.inj h)
    exact begin_move ‹_›
  · next p due hs =>
    split at h
    · obtain ⟨answer, ha, he⟩ := Option.map_eq_some_iff.mp h
      obtain ⟨rfl, rfl⟩ := Prod.mk.inj he
      exact .reply hs ‹_› ha
    · obtain ⟨answer, ha, he⟩ := Option.map_eq_some_iff.mp h
      obtain ⟨rfl, rfl⟩ := Prod.mk.inj he
      cases answer with
      | error e => exact .refuse hs ‹_› ha
      | ok plan => exact .stream hs ‹_› ha
  · obtain ⟨rfl, rfl⟩ := Prod.mk.inj (Option.some.inj h)
    exact takeReply_move ‹_›
  · cases h
  · cases h

theorem CallMove.options_eq (h : CallMove s t t' s') : s'.options = s.options := by
  cases h <;> rfl

theorem CallMove.turns_eq (h : CallMove s t t' s') : s'.turns = s.turns := by
  cases h <;> rfl

theorem CallMove.session_eq (h : CallMove s t t' s') : t'.session = t.session := by
  cases h <;> rfl

theorem CallMove.delivery_eq (h : CallMove s t t' s') : t'.delivery = t.delivery := by
  cases h <;> rfl

inductive Move (s : Service) (t : Turn) : Turn → Service → Prop where

  | call {t' : Turn} {s' : Service} : CallMove s t t' s' → Move s t t' s'

  | feed {feed feed' : Feed} {relay : Relay} {source : Channel Increment} :
      t.stage = .streaming feed relay →
      Move s t { t with stage := .streaming feed' { relay with source } } s

  | relay {feed : Feed} {relay relay' : Relay} {a : Archive} : t.stage = .streaming feed relay →
      Relay.Move t.cancelled relay s.archive relay' a →
      Move s t { t with stage := .streaming feed relay' } { s with archive := a }

theorem feedStep_eq {feed : Feed} {relay : Relay} (h : s.feedStep t feed relay = some t') :
    ∃ feed' source, t' = { t with stage := .streaming feed' { relay with source } } := by
  rw [feedStep] at h
  split at h
  · cases h
  · split at h
    · split at h
      · exact ⟨_, _, (Option.some.inj h).symm⟩
      · exact ⟨_, _, (Option.some.inj h).symm⟩
      · cases h
    · split at h
      · cases h
      · exact ⟨_, _, (Option.some.inj h).symm⟩

theorem feeding_of_turnStep (h : s.turnStep t .feed = some (t', s')) :
    ∃ feed relay, t.stage = .streaming feed relay ∧ s.feedStep t feed relay = some t' ∧ s' = s := by
  simp only [turnStep] at h
  split at h
  · next feed relay hs =>
    obtain ⟨_, hf, he⟩ := Option.map_eq_some_iff.mp h
    obtain ⟨rfl, rfl⟩ := Prod.mk.inj he
    exact ⟨feed, relay, hs, hf, rfl⟩
  · cases h

theorem relaying_of_turnStep (h : s.turnStep t .relay = some (t', s')) :
    ∃ feed relay relay' a, t.stage = .streaming feed relay ∧
      relay.step t.cancelled s.archive = some (relay', a) ∧
      t' = { t with stage := .streaming feed relay' } ∧ s' = { s with archive := a } := by
  simp only [turnStep] at h
  split at h
  · next feed relay hs =>
    split at h
    · next relay' a hr =>
      obtain ⟨rfl, rfl⟩ := Prod.mk.inj (Option.some.inj h)
      exact ⟨feed, relay, relay', a, hs, hr, rfl, rfl⟩
    · cases h
  · cases h

theorem turnStep_move (h : s.turnStep t part = some (t', s')) : Move s t t' s' := by
  cases part with
  | call => exact .call (call_move h)
  | feed =>
    obtain ⟨_, _, hs, hf, rfl⟩ := feeding_of_turnStep h
    obtain ⟨_, _, rfl⟩ := feedStep_eq hf
    exact .feed hs
  | relay =>
    obtain ⟨_, _, _, _, hs, hr, rfl, rfl⟩ := relaying_of_turnStep h
    exact .relay hs (Relay.step_move hr)

theorem Move.turns_eq (h : Move s t t' s') : s'.turns = s.turns := by
  cases h with
  | call h => exact h.turns_eq
  | feed | relay => rfl

theorem Move.session_eq (h : Move s t t' s') : t'.session = t.session := by
  cases h with
  | call h => exact h.session_eq
  | feed | relay => rfl

theorem Move.delivery_eq (h : Move s t t' s') : t'.delivery = t.delivery := by
  cases h with
  | call h => exact h.delivery_eq
  | feed | relay => rfl

theorem step_eq_some_iff :
    s.step k part = some u ↔ ∃ t t' s', s.turns[k]? = some t ∧ s.turnStep t part = some (t', s') ∧
      u = { s' with turns := s.turns.set k t' } := by
  rw [step]
  cases s.turns[k]? with
  | none => simp
  | some t =>
    rcases h : s.turnStep t part with _ | ⟨t', s'⟩
    · simp [h]
    · simp [h, (turnStep_move h).turns_eq, eq_comm]

end Parley.Service
