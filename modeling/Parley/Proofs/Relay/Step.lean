import Parley.Relay
import Parley.Proofs.Increments

/-! # Steps of the relay

What a single step of the relay can do: which increment it takes, what it records, and what it
leaves alone. A relay records at most once, and its steps run out unless the generator sends more.
-/

namespace Parley

namespace Relay

namespace Stage

/-- The increments that are taken and not passed on yet. -/
def inHand : Stage → List Increment
  | .holding i | .forwarding i _ => [i]
  | _ => []

/-- Whether a reply may still be recorded. -/
def mayRecord : Stage → Bool
  | .awaiting | .holding _ | .broken | .hungUp => true
  | .forwarding i _ => !i.isLast
  | .closing _ | .ended _ => false

/-- Whether it is known how the relay ends. -/
def isOver : Stage → Bool
  | .closing _ | .ended _ => true
  | _ => false

/-- Once the turn is cancelled, the relay can only end as cancelled. -/
def IsLost : Stage → Prop
  | .awaiting => True
  | .holding i | .forwarding i _ => i.isTerminal = false
  | .broken | .hungUp => False
  | .closing o | .ended o => o = .cancelled

end Stage

def Outcome.persisted : Outcome → Bool
  | .completed _ p | .hungUp _ p | .failed p => p
  | .cancelled => false

/-- Whether the relay has found out that the generator left. -/
def sawHangUp (r : Relay) : Bool :=
  match r.stage with
  | .hungUp | .closing (.hungUp ..) | .ended (.hungUp ..) => true
  | _ => false

open Increment

variable {cancelled : Bool} {r r' : Relay} {a a' : Archive} {i : Increment} {p : Bool}
  {text : String}

theorem outcome?_eq_some_iff {o : Outcome} : r.outcome? = some o ↔ r.stage = .ended o := by
  rw [outcome?]
  split <;> simp_all

theorem record_eq (r : Relay) (a : Archive) (text : String) :
    r.record a text =
      ((a.append r.session .assistant text).1.isOk, (a.append r.session .assistant text).2) := by
  rw [record]
  split <;> next h => rw [h]; rfl

/-- The steps of a relay, each with what it does to the archive. -/
inductive Move (cancelled : Bool) (r : Relay) (a : Archive) : Relay → Archive → Prop where

  | cancel : r.stage = .awaiting → cancelled = true →
      Move cancelled r a { r with stage := .closing .cancelled } a

  | take {i : Increment} {source : Channel Increment} : r.stage = .awaiting → cancelled = false →
      r.source.receive = .item i source →
      Move cancelled r a { r with source, stage := .holding i } a

  | hangUp : r.stage = .awaiting → cancelled = false → r.source.receive = .closed →
      Move cancelled r a { r with stage := .hungUp } a

  | holdFailure {i : Increment} : r.stage = .holding i → i.isError = true →
      Move cancelled r a { r with stage := .forwarding i false } a

  | gather {i : Increment} : r.stage = .holding i → i.isTerminal = false →
      Move cancelled r a { r with text := r.text ++ i.text, stage := .forwarding i false } a

  | complete {i : Increment} {persisted : Bool} {a' : Archive} : r.stage = .holding i →
      i.isLast = true → r.record a (r.text ++ i.text) = (persisted, a') →
      Move cancelled r a { r with text := r.text ++ i.text, stage := .forwarding i persisted } a'

  | skip {i : Increment} {persisted : Bool} : r.stage = .forwarding i persisted →
      r.readerGone = true → Move cancelled r a (r.passed i persisted) a

  | withdraw {i : Increment} {persisted : Bool} : r.stage = .forwarding i persisted →
      r.readerGone = false → cancelled = true → Move cancelled r a (r.withdrawn i persisted) a

  | pass {i : Increment} {persisted : Bool} {sink : Channel Increment} :
      r.stage = .forwarding i persisted → r.readerGone = false → cancelled = false →
      r.sink.send i = .sent sink → Move cancelled r a ({ r with sink }.passed i persisted) a

  | loseReader {i : Increment} {persisted : Bool} : r.stage = .forwarding i persisted →
      r.readerGone = false → cancelled = false → r.sink.send i = .closed →
      Move cancelled r a
        ({ r with readerGone := true, sink := r.sink.closeSender }.passed i persisted) a

  | keepPartial {persisted : Bool} {a' : Archive} : r.stage = .broken →
      r.policy = .persist → r.text ≠ "" → r.record a r.text = (persisted, a') →
      Move cancelled r a { r with stage := .closing (.failed persisted) } a'

  | dropPartial : r.stage = .broken → ¬ (r.policy = .persist ∧ r.text ≠ "") →
      Move cancelled r a { r with stage := .closing (.failed false) } a

  | keepRest {persisted : Bool} {a' : Archive} : r.stage = .hungUp →
      r.record a r.text = (persisted, a') →
      Move cancelled r a { r with stage := .closing (.hungUp r.text persisted) } a'

  | finish {o : Outcome} : r.stage = .closing o → Move cancelled r a (r.finish o) a

theorem await_move (hs : r.stage = .awaiting) (h : r.await cancelled = some r') :
    Move cancelled r a r' a := by
  rw [await] at h
  split at h
  · obtain rfl := Option.some.inj h
    exact .cancel hs ‹_›
  · have hc : cancelled = false := by simpa using ‹¬ cancelled = true›
    split at h
    · next hr =>
      obtain rfl := Option.some.inj h
      exact .take hs hc hr
    · cases h
    · next hr =>
      obtain rfl := Option.some.inj h
      exact .hangUp hs hc hr

theorem gather_move (hs : r.stage = .holding i) :
    Move cancelled r a (r.gather a i).1 (r.gather a i).2 := by
  rw [Relay.gather]
  rcases i.kinds with ⟨he, -, -⟩ | ⟨he, hl, -⟩ | ⟨he, hl, ht⟩
  · rw [if_pos he]
    exact .holdFailure hs he
  · simp only [he, hl, Bool.false_eq_true, if_false, if_true]
    exact .complete hs hl rfl
  · simp only [he, hl, Bool.false_eq_true, if_false]
    exact .gather hs ht

theorem forward_move (hs : r.stage = .forwarding i p) (h : r.forward cancelled i p = some r') :
    Move cancelled r a r' a := by
  rw [forward] at h
  split at h
  · obtain rfl := Option.some.inj h
    exact .skip hs ‹_›
  · have hg : r.readerGone = false := by simpa using ‹¬ r.readerGone = true›
    split at h
    · obtain rfl := Option.some.inj h
      exact .withdraw hs hg ‹_›
    · have hc : cancelled = false := by simpa using ‹¬ cancelled = true›
      split at h
      · next hr =>
        obtain rfl := Option.some.inj h
        exact .pass hs hg hc hr
      · next hr =>
        obtain rfl := Option.some.inj h
        exact .loseReader hs hg hc hr
      · cases h

theorem keepPartial_move (hs : r.stage = .broken) :
    Move cancelled r a (r.keepPartial a).1 (r.keepPartial a).2 := by
  rw [Relay.keepPartial]
  split
  · next h => exact .keepPartial hs h.1 h.2 rfl
  · next h => exact .dropPartial hs h

theorem step_move (h : r.step cancelled a = some (r', a')) : Move cancelled r a r' a' := by
  rw [step] at h
  split at h
  · obtain ⟨s, hs, he⟩ := Option.map_eq_some_iff.mp h
    obtain ⟨rfl, rfl⟩ := Prod.mk.inj he
    exact await_move ‹_› hs
  · obtain ⟨rfl, rfl⟩ := Prod.mk.inj (Option.some.inj h)
    exact gather_move ‹_›
  · obtain ⟨s, hs, he⟩ := Option.map_eq_some_iff.mp h
    obtain ⟨rfl, rfl⟩ := Prod.mk.inj he
    exact forward_move ‹_› hs
  · obtain ⟨rfl, rfl⟩ := Prod.mk.inj (Option.some.inj h)
    exact keepPartial_move ‹_›
  · obtain ⟨rfl, rfl⟩ := Prod.mk.inj (Option.some.inj h)
    exact .keepRest ‹_› rfl
  · obtain ⟨rfl, rfl⟩ := Prod.mk.inj (Option.some.inj h)
    exact .finish ‹_›
  · cases h

theorem passed_cases (r : Relay) (i : Increment) (p : Bool) :
    (i.isError = true ∧ r.passed i p = { r with stage := .broken }) ∨
      (i.isLast = true ∧ r.passed i p = { r with stage := .closing (.completed r.text p) }) ∨
      (i.isTerminal = false ∧ r.passed i p = { r with stage := .awaiting }) := by
  rcases i.kinds with ⟨he, -, -⟩ | ⟨he, hl, -⟩ | ⟨he, hl, ht⟩ <;> simp [passed, *]

theorem withdrawn_cases (r : Relay) (i : Increment) (p : Bool) :
    (i.isLast = true ∧ r.withdrawn i p = { r with stage := .closing (.completed r.text p) }) ∨
      (i.isLast = false ∧ r.withdrawn i p = { r with stage := .closing .cancelled }) := by
  cases hl : i.isLast <;> simp [withdrawn, hl]

theorem mayRecord_passed (r : Relay) {i : Increment} (h : (r.passed i p).stage.mayRecord = true) :
    i.isLast = false := by
  rcases i.kinds with ⟨-, hl, -⟩ | ⟨he, hl, -⟩ | ⟨-, hl, -⟩
  · exact hl
  · simp [passed, he, hl, Stage.mayRecord] at h
  · exact hl

/-- A step that records a reply is the last one that can. -/
theorem Move.archive_cases (h : Move cancelled r a r' a') :
    (a' = a ∧ (r'.stage.mayRecord = true → r.stage.mayRecord = true)) ∨
      (r.stage.mayRecord = true ∧ r'.stage.mayRecord = false ∧
        ∃ text, a' = (a.append r.session .assistant text).2) := by
  cases h with
  | cancel | take | hangUp | holdFailure | gather | dropPartial | finish =>
    exact .inl ⟨rfl, by simp_all [Stage.mayRecord, Relay.finish]⟩
  | complete hs hl hr =>
    obtain ⟨rfl, rfl⟩ := Prod.mk.inj ((record_eq ..).symm.trans hr)
    exact .inr ⟨by simp [hs, Stage.mayRecord], by simp [Stage.mayRecord, hl], _, rfl⟩
  | skip hs | pass hs | loseReader hs =>
    exact .inl ⟨rfl, fun hm => by simp [hs, Stage.mayRecord, mayRecord_passed _ hm]⟩
  | @withdraw i p hs =>
    refine .inl ⟨rfl, fun hm => ?_⟩
    rcases withdrawn_cases r i p with ⟨-, he⟩ | ⟨-, he⟩ <;> simp [he, Stage.mayRecord] at hm
  | keepPartial hs _ _ hr | keepRest hs hr =>
    obtain ⟨rfl, rfl⟩ := Prod.mk.inj ((record_eq ..).symm.trans hr)
    exact .inr ⟨by simp [hs, Stage.mayRecord], rfl, _, rfl⟩

@[simp] theorem inHand_passed : (r.passed i p).stage.inHand = [] := by
  rcases passed_cases r i p with ⟨-, h⟩ | ⟨-, h⟩ | ⟨-, h⟩ <;> rw [h] <;> rfl

@[simp] theorem inHand_withdrawn : (r.withdrawn i p).stage.inHand = [] := by
  rcases withdrawn_cases r i p with ⟨-, h⟩ | ⟨-, h⟩ <;> rw [h] <;> rfl

@[simp] theorem sink_passed : (r.passed i p).sink = r.sink := by
  rcases passed_cases r i p with ⟨-, h⟩ | ⟨-, h⟩ | ⟨-, h⟩ <;> rw [h]

@[simp] theorem sink_withdrawn : (r.withdrawn i p).sink = r.sink := by
  rcases withdrawn_cases r i p with ⟨-, h⟩ | ⟨-, h⟩ <;> rw [h]

@[simp] theorem readerGone_passed : (r.passed i p).readerGone = r.readerGone := by
  rcases passed_cases r i p with ⟨-, h⟩ | ⟨-, h⟩ | ⟨-, h⟩ <;> rw [h]

@[simp] theorem readerGone_withdrawn : (r.withdrawn i p).readerGone = r.readerGone := by
  rcases withdrawn_cases r i p with ⟨-, h⟩ | ⟨-, h⟩ <;> rw [h]

@[simp] theorem session_passed : (r.passed i p).session = r.session := by
  rcases passed_cases r i p with ⟨-, h⟩ | ⟨-, h⟩ | ⟨-, h⟩ <;> rw [h]

@[simp] theorem session_withdrawn : (r.withdrawn i p).session = r.session := by
  rcases withdrawn_cases r i p with ⟨-, h⟩ | ⟨-, h⟩ <;> rw [h]

theorem Move.session_eq (h : Move cancelled r a r' a') : r'.session = r.session := by
  cases h <;> simp [Relay.finish]

theorem isOver_passed (h : (r.passed i p).stage.isOver = false) :
    (r.passed i p).source = r.source := by
  rcases passed_cases r i p with ⟨-, he⟩ | ⟨-, he⟩ | ⟨-, he⟩ <;> simp_all [Stage.isOver]

theorem isOver_withdrawn : (r.withdrawn i p).stage.isOver = true := by
  rcases withdrawn_cases r i p with ⟨-, he⟩ | ⟨-, he⟩ <;> rw [he] <;> rfl

theorem Move.of_isOver (h : Move cancelled r a r' a') (hr : r.stage.isOver = true) :
    a' = a ∧ ∃ o, r.stage = .closing o ∧ r' = r.finish o := by
  cases h with
  | finish hs => exact ⟨rfl, _, hs, rfl⟩
  | _ => simp_all [Stage.isOver]

theorem Move.ne_ended (h : Move cancelled r a r' a') (o : Outcome) : r.stage ≠ .ended o := by
  intro hs
  cases h <;> simp_all

theorem Move.source_eq (h : Move cancelled r a r' a') (hr : r.stage ≠ .awaiting)
    (hr' : r'.stage.isOver = false) : r'.source = r.source ∧ r.stage.isOver = false := by
  cases h with
  | cancel hs | take hs | hangUp hs => exact absurd hs hr
  | skip hs | pass hs | loseReader hs =>
    exact ⟨by rw [isOver_passed hr'], by rw [hs]; rfl⟩
  | withdraw => simp [isOver_withdrawn] at hr'
  | _ => simp_all [Stage.isOver, Relay.finish]

theorem Move.stepsLeft_lt (h : Move cancelled r a r' a') : r'.stepsLeft < r.stepsLeft := by
  cases h with
  | take hs _ hr =>
    obtain ⟨hi, -⟩ := Channel.receive_eq_item_iff.mp hr
    simp only [stepsLeft, hs, hi, List.length_cons]
    omega
  | @skip i p hs | @pass i p _ hs | @loseReader i p hs =>
    rcases i.kinds with ⟨he, hl, -⟩ | ⟨he, hl, -⟩ | ⟨he, hl, -⟩ <;>
      simp [stepsLeft, passed, hs, he, hl]
  | @withdraw i p hs => cases hl : i.isLast <;> simp [stepsLeft, withdrawn, hs, hl]
  | finish hs => simp [stepsLeft, Relay.finish, hs, Channel.closeReceiver]
  | _ => simp [stepsLeft, *]

theorem Move.isLost (hm : Move true r a r' a') (h : r.stage.IsLost) : r'.stage.IsLost := by
  cases hm with
  | cancel => exact rfl
  | take _ hn | hangUp _ hn | pass _ _ hn | loseReader _ _ hn => cases hn
  | holdFailure hs | gather hs =>
    rw [hs] at h
    exact h
  | complete hs hl => simp [hs, Stage.IsLost, isTerminal_of_isLast hl] at h
  | @skip i p hs =>
    rw [hs] at h
    rcases passed_cases r i p with ⟨he, -⟩ | ⟨hl, -⟩ | ⟨-, he⟩
    · simp [Stage.IsLost, isTerminal_of_isError he] at h
    · simp [Stage.IsLost, isTerminal_of_isLast hl] at h
    · rw [he]
      trivial
  | @withdraw i p hs =>
    rw [hs] at h
    rcases withdrawn_cases r i p with ⟨hl, -⟩ | ⟨-, he⟩
    · simp [Stage.IsLost, isTerminal_of_isLast hl] at h
    · rw [he]
      rfl
  | keepPartial hs | dropPartial hs | keepRest hs => simp [hs, Stage.IsLost] at h
  | finish hs =>
    rw [hs] at h
    exact h

/-- A relay that is settled has to wait or has ended. -/
theorem step_settle (cancelled : Bool) (r : Relay) (a : Archive) :
    (r.settle cancelled a).1.step cancelled (r.settle cancelled a).2 = none := by
  suffices h : ∀ n (r : Relay) a, r.stepsLeft ≤ n →
      (steps cancelled n r a).1.step cancelled (steps cancelled n r a).2 = none from
    h _ r a (Nat.le_refl _)
  intro n
  induction n with
  | zero =>
    intro r a hn
    by_contra hs
    obtain ⟨⟨r', a'⟩, hs⟩ := Option.ne_none_iff_exists'.mp hs
    have hlt : r'.stepsLeft < r.stepsLeft := (step_move hs).stepsLeft_lt
    omega
  | succ n ih =>
    intro r a hn
    rw [steps]
    split
    · next hs =>
      have hlt := (step_move hs).stepsLeft_lt
      exact ih _ _ (by omega)
    · assumption

theorem keeps_settle {P : Relay → Archive → Prop}
    (h : ∀ {r a r' a'}, P r a → Move cancelled r a r' a' → P r' a') (hr : P r a) :
    P (r.settle cancelled a).1 (r.settle cancelled a).2 := by
  rw [settle]
  generalize r.stepsLeft = n
  induction n generalizing r a with
  | zero => exact hr
  | succ n ih =>
    rw [steps]
    split
    · next hs => exact ih (h hr (step_move hs))
    · exact hr

theorem outcome?_settle_of_isLost (h : r.stage.IsLost) :
    (r.settle true a).1.outcome? = some .cancelled := by
  have hlost : (r.settle true a).1.stage.IsLost :=
    keeps_settle (P := fun r _ => r.stage.IsLost) (fun hr hm => hm.isLost hr) h
  have hstuck := step_settle true r a
  generalize (r.settle true a).1 = r' at *
  rw [outcome?_eq_some_iff]
  cases hs : r'.stage with
  | ended o => exact congrArg _ (by simpa [hs, Stage.IsLost] using hlost)
  | forwarding i p =>
    simp only [step, hs, forward, Option.map_eq_none_iff] at hstuck
    split at hstuck <;> simp at hstuck
  | _ => simp [step, hs, await] at hstuck

end Relay

end Parley
