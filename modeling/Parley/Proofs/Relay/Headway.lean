import Parley.Proofs.Relay.Step

/-! # Relays that get on

A relay with room in its channels never gets stuck before a reader who has received everything: it
can make a step, or it waits for its generator, or it has ended. With every step there is less left
to do, for the relay and its reader together.
-/

namespace Parley.Relay

open Increment

/-- A bound on the steps until what is in hand has arrived, or the relay has ended. -/
def Stage.effort : Stage → Nat
  | .ended _ => 0
  | .closing _ => 1
  | .broken | .hungUp => 2
  | .awaiting => 3
  | .forwarding .. => 5
  | .holding _ => 6

/-- A bound on the steps of the relay and its reader if nothing more is sent. -/
def toDo (r : Relay) : Nat :=
  4 * r.source.items.length + r.stage.effort + r.sink.items.length

/-- A relay with room on both sides, which leaves its reader when it ends. -/
structure Able (r : Relay) : Prop where
  sourceRoom : 0 < r.source.capacity
  sinkRoom : 0 < r.sink.capacity
  leaves : ∀ o, r.stage = .ended o → r.sink.senderOpen = false

variable {cancelled : Bool} {r r' : Relay} {a a' : Archive} {i : Increment} {p : Bool}

theorem able_between (session : SessionId) (policy : PartialPolicy) (sourceRoom sinkRoom : Nat) :
    (between session policy (.ofCapacity sourceRoom) (.ofCapacity sinkRoom)).Able where
  sourceRoom := Nat.le_max_left 1 sourceRoom
  sinkRoom := Nat.le_max_left 1 sinkRoom
  leaves o h := by cases h

theorem Able.setStage (h : r.Able) {stage : Stage} (hs : ∀ o, stage ≠ .ended o) :
    Able { r with stage } :=
  ⟨h.sourceRoom, h.sinkRoom, fun o ho => absurd ho (hs o)⟩

theorem Able.passed (h : r.Able) (i : Increment) (p : Bool) : (r.passed i p).Able := by
  rcases passed_cases r i p with ⟨-, he⟩ | ⟨-, he⟩ | ⟨-, he⟩ <;> rw [he] <;>
    exact h.setStage (by simp)

theorem Move.able (hm : Move cancelled r a r' a') (h : r.Able) : r'.Able := by
  obtain ⟨hsource, hsink, hleaves⟩ := h
  cases hm with
  | take _ _ hr =>
    obtain ⟨-, he⟩ := Channel.receive_eq_item_iff.mp hr
    rw [he]
    exact ⟨hsource, hsink, fun o ho => by cases ho⟩
  | skip => exact Able.passed ⟨hsource, hsink, hleaves⟩ _ _
  | pass _ _ _ hr =>
    obtain ⟨-, -, rfl⟩ := Channel.send_eq_sent_iff.mp hr
    apply Able.passed
    exact ⟨hsource, hsink, hleaves⟩
  | loseReader =>
    apply Able.passed
    exact ⟨hsource, hsink, fun _ _ => rfl⟩
  | @withdraw i p =>
    rcases withdrawn_cases r i p with ⟨-, he⟩ | ⟨-, he⟩ <;> rw [he] <;>
      exact ⟨hsource, hsink, fun o ho => by cases ho⟩
  | finish => exact ⟨hsource, hsink, fun _ _ => rfl⟩
  | _ => exact ⟨hsource, hsink, fun o ho => by cases ho⟩

theorem toDo_passed_le (r : Relay) (i : Increment) (p : Bool) :
    (r.passed i p).toDo ≤ 4 * r.source.items.length + 3 + r.sink.items.length := by
  rcases passed_cases r i p with ⟨-, he⟩ | ⟨-, he⟩ | ⟨-, he⟩ <;> simp [he, toDo, Stage.effort]

theorem Move.toDo_lt (hm : Move cancelled r a r' a') : r'.toDo < r.toDo := by
  have hforwarding {i : Increment} {p : Bool} (hs : r.stage = .forwarding i p) :
      r.toDo = 4 * r.source.items.length + 5 + r.sink.items.length := by
    rw [toDo, hs, Stage.effort]
  cases hm with
  | take hs _ hr =>
    obtain ⟨hi, -⟩ := Channel.receive_eq_item_iff.mp hr
    simp only [toDo, hs, hi, Stage.effort, List.length_cons]
    omega
  | @skip i p hs =>
    refine Nat.lt_of_le_of_lt (toDo_passed_le _ i p) ?_
    rw [hforwarding hs]
    omega
  | @pass i p sink hs _ _ hr =>
    obtain ⟨-, -, rfl⟩ := Channel.send_eq_sent_iff.mp hr
    refine Nat.lt_of_le_of_lt (toDo_passed_le _ i p) ?_
    rw [hforwarding hs]
    simp only [List.length_append, List.length_singleton]
    omega
  | @loseReader i p hs =>
    refine Nat.lt_of_le_of_lt (toDo_passed_le _ i p) ?_
    rw [hforwarding hs]
    simp only [Channel.closeSender]
    omega
  | @withdraw i p hs =>
    rcases withdrawn_cases r i p with ⟨-, he⟩ | ⟨-, he⟩ <;> simp [toDo, he, hs, Stage.effort]
  | finish hs =>
    simp only [toDo, Relay.finish, hs, Stage.effort, Channel.closeReceiver, Channel.closeSender,
      List.length_nil]
    omega
  | _ => simp [toDo, Stage.effort, *]

theorem Move.senderOpen_eq (hm : Move cancelled r a r' a') :
    r'.source.senderOpen = r.source.senderOpen := by
  cases hm with
  | take _ _ hr =>
    obtain ⟨-, he⟩ := Channel.receive_eq_item_iff.mp hr
    rw [he]
  | @skip i p | @pass i p | @loseReader i p =>
    rcases i.kinds with ⟨he, hl, -⟩ | ⟨he, hl, -⟩ | ⟨he, hl, -⟩ <;> simp [passed, he, hl]
  | @withdraw i p => rcases withdrawn_cases r i p with ⟨-, he⟩ | ⟨-, he⟩ <;> rw [he]
  | _ => rfl

theorem Move.listening (hm : Move cancelled r a r' a') (h : r'.source.receiverOpen = true) :
    r.source.receiverOpen = true := by
  cases hm with
  | take _ _ hr =>
    obtain ⟨-, he⟩ := Channel.receive_eq_item_iff.mp hr
    rwa [he] at h
  | @skip i p | @pass i p | @loseReader i p =>
    rcases i.kinds with ⟨he, hl, -⟩ | ⟨he, hl, -⟩ | ⟨he, hl, -⟩ <;> simpa [passed, he, hl] using h
  | @withdraw i p => rcases withdrawn_cases r i p with ⟨-, he⟩ | ⟨-, he⟩ <;> rwa [he] at h
  | finish => simp [Relay.finish, Channel.closeReceiver] at h
  | _ => exact h

/-- Before a reader who has received everything or has left a relay gets on, unless it has to wait
for its generator or has ended. -/
theorem Able.step_cases (h : r.Able) (hread : r.sink.receiverOpen = true → r.sink.items = [])
    (cancelled : Bool) (a : Archive) :
    (r.step cancelled a).isSome ∨ (∃ o, r.stage = .ended o) ∨
      r.stage = .awaiting ∧ r.source.receive = .empty := by
  cases hs : r.stage with
  | awaiting =>
    cases cancelled with
    | true => exact .inl (by simp [step, hs, await])
    | false =>
      cases hr : r.source.receive with
      | empty => exact .inr (.inr ⟨rfl, rfl⟩)
      | item | closed => exact .inl (by simp [step, hs, await, hr])
  | forwarding i p =>
    refine .inl ?_
    simp only [step, hs, forward]
    split
    · rfl
    · split
      · rfl
      · split
        · rfl
        · rfl
        · next hfull =>
          have hroom : 0 < r.sink.capacity := h.sinkRoom
          unfold Channel.send at hfull
          split at hfull
          · cases hfull
          · next hopen => simp [hread (by simpa using hopen), hroom] at hfull
  | ended o => exact .inr (.inl ⟨o, rfl⟩)
  | _ => exact .inl (by simp [step, hs])

end Parley.Relay
