import Parley.Provider.Pump
import Mathlib.Tactic.Common

/-! # Steps of the pump

What a single step of a pump can do, what it has still to send, and how much it has still to do. A
pump gets stuck only before a channel that is full.
-/

namespace Parley.Provider.Pump

variable {p p' : Pump}

inductive Move (p : Pump) : Pump → Prop where

  | skip {x : Item} {items : List Item} : p.stage = .awaiting → p.items = x :: items →
      increment? x = none → Move p { p with items }

  | take {x : Item} {items : List Item} {i : Increment} : p.stage = .awaiting →
      p.items = x :: items → increment? x = some i →
      Move p { p with items, stage := .sending i }

  | hangUp : p.stage = .awaiting → p.items = [] → Move p p.finish

  | send {i : Increment} {sink : Channel Increment} : p.stage = .sending i →
      p.sink.send i = .sent sink → i.isTerminal = false →
      Move p { p with sink, stage := .awaiting }

  | sendLast {i : Increment} {sink : Channel Increment} : p.stage = .sending i →
      p.sink.send i = .sent sink → i.isTerminal = true → Move p { p with sink }.finish

  | giveUp {i : Increment} : p.stage = .sending i → p.sink.send i = .closed → Move p p.finish

theorem step_move (h : p.step false = some p') : Move p p' := by
  rw [step] at h
  split at h
  · cases h
  · next hs =>
    simp only [Bool.false_eq_true, if_false] at h
    split at h
    · next hi =>
      obtain rfl := Option.some.inj h
      exact .hangUp hs hi
    · next x items hi =>
      split at h
      · next hx =>
        obtain rfl := Option.some.inj h
        exact .skip hs hi hx
      · next i hx =>
        obtain rfl := Option.some.inj h
        exact .take hs hi hx
  · next i hs =>
    split at h
    · next sink hr =>
      split at h
      · next hi =>
        obtain rfl := Option.some.inj h
        exact .sendLast hs hr hi
      · next hi =>
        obtain rfl := Option.some.inj h
        exact .send hs hr (by simpa using hi)
    · next hr =>
      obtain rfl := Option.some.inj h
      exact .giveUp hs hr
    · cases h

/-- A cancelled pump stops before the next event, and otherwise goes on as if it were not. -/
theorem step_cases {cancelled : Bool} (h : p.step cancelled = some p') :
    Move p p' ∨ cancelled = true ∧ p.stage = .awaiting ∧ p' = p.finish := by
  cases cancelled with
  | false => exact .inl (step_move h)
  | true =>
    cases hs : p.stage with
    | ended => simp [step, hs] at h
    | awaiting => exact .inr ⟨rfl, rfl, by simpa [step, hs] using h.symm⟩
    | sending i =>
      refine .inl (step_move ?_)
      simpa only [step, hs] using h

/-- What a pump has still to send. -/
def unsent (p : Pump) : List Increment :=
  match p.stage with
  | .awaiting => increments p.items
  | .sending i => if i.isTerminal then [i] else i :: increments p.items
  | .ended => []

theorem unsent_of_awaiting (hs : p.stage = .awaiting) : p.unsent = increments p.items := by
  rw [unsent, hs]

theorem unsent_of_sending {i : Increment} (hs : p.stage = .sending i) :
    p.unsent = if i.isTerminal then [i] else i :: increments p.items := by
  rw [unsent, hs]

theorem Move.ne_ended (hm : Move p p') : p.stage ≠ .ended := by
  cases hm <;> simp_all

theorem Move.senderOpen_iff (hm : Move p p') (h : p.sink.senderOpen = true) :
    p'.sink.senderOpen = false ↔ p'.stage = .ended := by
  cases hm with
  | skip hs => simp [h, hs]
  | take => simp [h]
  | hangUp | sendLast | giveUp => simp [finish, Channel.closeSender]
  | send hs hr =>
    obtain ⟨-, -, rfl⟩ := Channel.send_eq_sent_iff.mp hr
    simp [h]

theorem Move.sink_cases (hm : Move p p') : p'.sink.items = p.sink.items ∨
    ∃ i, p.stage = .sending i ∧ p.sink.receiverOpen = true ∧ p'.sink.items = p.sink.items ++ [i] ∧
      (p'.stage ≠ .ended → i.isTerminal = false) := by
  cases hm with
  | skip | take | hangUp | giveUp => exact .inl rfl
  | send hs hr hi =>
    obtain ⟨hopen, -, rfl⟩ := Channel.send_eq_sent_iff.mp hr
    exact .inr ⟨_, hs, hopen, rfl, fun _ => hi⟩
  | sendLast hs hr =>
    obtain ⟨hopen, -, rfl⟩ := Channel.send_eq_sent_iff.mp hr
    exact .inr ⟨_, hs, hopen, rfl, fun hn => absurd rfl hn⟩

theorem Move.sink_eq (hm : Move p p') : p'.sink.capacity = p.sink.capacity ∧
    p'.sink.receiverOpen = p.sink.receiverOpen := by
  cases hm with
  | skip | take | hangUp | giveUp => exact ⟨rfl, rfl⟩
  | send _ hr | sendLast _ hr =>
    obtain ⟨-, -, rfl⟩ := Channel.send_eq_sent_iff.mp hr
    exact ⟨rfl, rfl⟩

def Stage.effort : Stage → Nat
  | .ended => 0
  | .awaiting => 1
  | .sending _ => 6

def toDo (p : Pump) : Nat :=
  6 * p.items.length + p.stage.effort + 4 * p.sink.items.length

theorem Move.toDo_lt (hm : Move p p') : p'.toDo < p.toDo := by
  cases hm with
  | skip hs hi => simp [toDo, hi]
  | take hs hi =>
    simp only [toDo, hs, hi, Stage.effort, List.length_cons]
    omega
  | hangUp hs | giveUp hs => simp [toDo, finish, Channel.closeSender, hs, Stage.effort]
  | send hs hr | sendLast hs hr =>
    obtain ⟨-, -, rfl⟩ := Channel.send_eq_sent_iff.mp hr
    simp only [toDo, finish, Channel.closeSender, hs, Stage.effort, List.length_append,
      List.length_singleton]
    omega

theorem exists_step (hs : p.stage ≠ .ended) (hitems : p.sink.items = [])
    (hroom : 0 < p.sink.capacity) : ∃ p', p.step false = some p' := by
  cases hstage : p.stage with
  | ended => exact absurd hstage hs
  | awaiting =>
    simp only [step, hstage, Bool.false_eq_true, if_false]
    split
    · exact ⟨_, rfl⟩
    · split <;> exact ⟨_, rfl⟩
  | sending i =>
    simp only [step, hstage]
    split
    · split <;> exact ⟨_, rfl⟩
    · exact ⟨_, rfl⟩
    · next hfull =>
      unfold Channel.send at hfull
      split at hfull
      · cases hfull
      · simp [hitems, hroom] at hfull

theorem step_toDo_lt {cancelled : Bool} (h : p.step cancelled = some p') : p'.toDo < p.toDo := by
  rcases step_cases h with hm | ⟨-, hs, rfl⟩
  · exact hm.toDo_lt
  · simp [toDo, finish, Channel.closeSender, hs, Stage.effort]

theorem exists_step_of_uncancelled (cancelled : Bool) (h : ∃ p', p.step false = some p') :
    ∃ p', p.step cancelled = some p' := by
  cases cancelled with
  | false => exact h
  | true =>
    obtain ⟨p', hp⟩ := h
    cases hs : p.stage with
    | ended => simp [step, hs] at hp
    | awaiting => exact ⟨p.finish, by simp [step, hs]⟩
    | sending i => exact ⟨p', by simpa only [step, hs] using hp⟩

end Parley.Provider.Pump
