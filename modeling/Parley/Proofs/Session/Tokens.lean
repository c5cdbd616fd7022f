import Mathlib.Data.List.Induction
import Mathlib.Tactic.Common
import Parley.LineSource
import Parley.Proofs.Runs

/-! # Tokens

A session has a token, and so has each of its turns. A turn has a window, which opens when the
interrupter is armed with its token and closes when the interrupter is disarmed. What was cancelled,
and what was said to those who interrupted, can be read off a log of the things that happened to the
tokens, whatever else the session did in between.
-/

namespace Parley

namespace Session

inductive Happening where
  | armed (k : Nat)
  | disarmed
  | interrupted (found : Bool)
  | cancelled
  deriving DecidableEq, Repr

/-- Something happened, and since then only such things as have a property. -/
def Since (log : List Happening) (x : Happening) (P : Happening → Prop) : Prop :=
  ∃ before after, log = before ++ x :: after ∧ ∀ y ∈ after, P y

/-- The window of a turn is open at the end of a log. -/
def Open (log : List Happening) (k : Nat) : Prop :=
  Since log (.armed k) fun y => y ≠ .disarmed

/-- The window of a turn is open at the end of a log, and no interrupt has fallen into it. -/
def Fresh (log : List Happening) (k : Nat) : Prop :=
  Since log (.armed k) fun y => y ≠ .disarmed ∧ ∀ found, y ≠ .interrupted found

/-- An interrupt has fallen into the window of a turn. -/
def Hit (log : List Happening) (k : Nat) : Prop :=
  ∃ before found after, log = before ++ .interrupted found :: after ∧ Open before k

variable {log before after : List Happening} {x y : Happening} {P : Happening → Prop}
  {k j : Nat} {found : Bool}

theorem concat_eq_append_cons :
    log ++ [x] = before ++ y :: after ↔
      (before = log ∧ y = x ∧ after = []) ∨ ∃ rest, after = rest ++ [x] ∧
        log = before ++ y :: rest := by
  constructor
  · intro h
    rcases List.eq_nil_or_concat after with rfl | ⟨rest, z, rfl⟩
    · obtain ⟨rfl, hx⟩ := List.append_inj' h rfl
      exact .inl ⟨rfl, by simpa using hx.symm, rfl⟩
    · rw [List.concat_eq_append, ← List.cons_append, ← List.append_assoc] at h
      obtain ⟨rfl, hx⟩ := List.append_inj' h rfl
      exact .inr ⟨rest, by simpa using hx.symm, rfl⟩
  · rintro (⟨rfl, rfl, rfl⟩ | ⟨rest, rfl, rfl⟩)
    · rfl
    · simp

theorem since_concat : Since (log ++ [x]) y P ↔ x = y ∨ P x ∧ Since log y P := by
  constructor
  · rintro ⟨before, after, he, hafter⟩
    rcases concat_eq_append_cons.mp he with ⟨-, rfl, -⟩ | ⟨rest, rfl, rfl⟩
    · exact .inl rfl
    · refine .inr ⟨hafter x (by simp), before, rest, rfl, ?_⟩
      intro z hz
      exact hafter z (by simp [hz])
  · rintro (rfl | ⟨hx, before, after, rfl, hafter⟩)
    · exact ⟨log, [], rfl, by simp⟩
    · refine ⟨before, after ++ [x], by simp, ?_⟩
      intro z hz
      rcases List.mem_append.mp hz with hz | hz
      · exact hafter z hz
      · exact List.mem_singleton.mp hz ▸ hx

theorem not_since_nil : ¬ Since [] y P := by
  rintro ⟨before, after, he, -⟩
  simp at he

theorem open_concat : Open (log ++ [x]) k ↔ x = .armed k ∨ x ≠ .disarmed ∧ Open log k :=
  since_concat

theorem fresh_concat : Fresh (log ++ [x]) k ↔
    x = .armed k ∨ (x ≠ .disarmed ∧ ∀ found, x ≠ .interrupted found) ∧ Fresh log k :=
  since_concat

theorem hit_concat :
    Hit (log ++ [x]) k ↔ (∃ found, x = .interrupted found) ∧ Open log k ∨ Hit log k := by
  constructor
  · rintro ⟨before, found, after, he, hopen⟩
    rcases concat_eq_append_cons.mp he with ⟨rfl, rfl, -⟩ | ⟨rest, rfl, rfl⟩
    · exact .inl ⟨⟨found, rfl⟩, hopen⟩
    · exact .inr ⟨before, found, rest, rfl, hopen⟩
  · rintro (⟨⟨found, rfl⟩, hopen⟩ | ⟨before, found, after, rfl, hopen⟩)
    · exact ⟨log, found, [], rfl, hopen⟩
    · exact ⟨before, found, after ++ [x], by simp, hopen⟩

theorem Open.armed_mem (h : Open log k) : .armed k ∈ log := by
  obtain ⟨before, after, rfl, -⟩ := h
  simp

theorem Hit.armed_mem (h : Hit log k) : .armed k ∈ log := by
  obtain ⟨before, found, after, rfl, hopen⟩ := h
  exact List.mem_append_left _ hopen.armed_mem

theorem Fresh.toOpen (h : Fresh log k) : Open log k := by
  obtain ⟨before, after, rfl, hafter⟩ := h
  exact ⟨before, after, rfl, fun y hy => (hafter y hy).1⟩

theorem Open.fresh_or_hit (h : Open log k) : Fresh log k ∨ Hit log k := by
  induction log using List.reverseRecOn with
  | nil => exact absurd h not_since_nil
  | append_singleton log x ih =>
    rcases open_concat.mp h with rfl | ⟨hx, hopen⟩
    · exact .inl (fresh_concat.mpr (.inl rfl))
    · by_cases hi : ∃ found, x = .interrupted found
      · exact .inr (hit_concat.mpr (.inl ⟨hi, hopen⟩))
      · rw [not_exists] at hi
        rcases ih hopen with hfresh | hhit
        · exact .inl (fresh_concat.mpr (.inr ⟨⟨hx, hi⟩, hfresh⟩))
        · exact .inr (hit_concat.mpr (.inr hhit))

/-- The tokens of a session, cancelled or not, and where an interrupt goes. -/
structure Tokens where
  interrupter : Interrupter Nat
  turn? : Option Nat
  session : Bool
  turns : List Bool
  deriving DecidableEq

namespace Tokens

def interrupt (t : Tokens) : Tokens :=
  { t with
    interrupter := t.interrupter.interrupt.2
    turns :=
      match t.interrupter.interrupt.1 with
      | some k => t.turns.set k true
      | none => t.turns }

/-- The tokens after something has happened; none if it cannot happen. -/
def happen (t : Tokens) : Happening → Option Tokens
  | .armed k =>
    if t.turn? = none ∧ k = t.turns.length then
      some { t with
        interrupter := t.interrupter.arm k, turn? := some k, turns := t.turns ++ [t.session] }
    else none
  | .disarmed =>
    if t.turn? = none then none
    else some { t with interrupter := t.interrupter.disarm, turn? := none }
  | .interrupted found => if found = t.interrupter.armed.isSome then some t.interrupt else none
  | .cancelled => some { t with session := true, turns := t.turns.map fun _ => true }

/-- What a log tells of the tokens of a session, which had other turns before. -/
structure Told (t₀ : Tokens) (log : List Happening) (t : Tokens) : Prop where
  session : t.session = true ↔ t₀.session = true ∨ .cancelled ∈ log
  window : ∀ k, t.turn? = some k ↔ Open log k
  armed : ∀ k, t.interrupter.armed = some k ↔ Fresh log k
  grown : t₀.turns.length ≤ t.turns.length
  begun : ∀ k, .armed k ∈ log ↔ t₀.turns.length ≤ k ∧ k < t.turns.length
  once : ∀ before k after, log = before ++ .armed k :: after → .armed k ∉ before
  turns : ∀ k c, t₀.turns.length ≤ k → t.turns[k]? = some c →
    (c = true ↔ t.session = true ∨ Hit log k)
  answers : ∀ before found after, log = before ++ .interrupted found :: after →
    (found = true ↔ ∃ k, Fresh before k)

variable {t₀ t t' : Tokens}

theorem Told.start (ha : t₀.interrupter.armed = none) (hn : t₀.turn? = none) : Told t₀ [] t₀ where
  session := by simp
  window k := by simp [hn, Open, not_since_nil]
  armed k := by simp [ha, Fresh, not_since_nil]
  grown := Nat.le_refl _
  begun k := by simp
  once := by simp
  turns k c hk hc := by
    obtain ⟨hlt, -⟩ := List.getElem?_eq_some_iff.mp hc
    omega
  answers := by simp

theorem answers_concat (h : Told t₀ log t) (hx : ∀ found, x = .interrupted found →
      (found = true ↔ ∃ k, Fresh log k)) :
    ∀ before found after, log ++ [x] = before ++ .interrupted found :: after →
      (found = true ↔ ∃ k, Fresh before k) := by
  intro before found after he
  rcases concat_eq_append_cons.mp he with ⟨rfl, rfl, -⟩ | ⟨rest, -, rfl⟩
  · exact hx found rfl
  · exact h.answers before found rest rfl

theorem once_concat (h : Told t₀ log t) (hx : ∀ k, x = .armed k → k = t.turns.length) :
    ∀ before k after, log ++ [x] = before ++ .armed k :: after → .armed k ∉ before := by
  intro before k after he
  rcases concat_eq_append_cons.mp he with ⟨rfl, rfl, -⟩ | ⟨rest, -, rfl⟩
  · intro hmem
    have hlt := ((h.begun k).mp hmem).2
    have hk := hx k rfl
    omega
  · exact h.once before k rest rfl

theorem Told.arm (h : Told t₀ log t) (hn : t.turn? = none) :
    Told t₀ (log ++ [.armed t.turns.length])
      { t with
        interrupter := t.interrupter.arm t.turns.length
        turn? := some t.turns.length
        turns := t.turns ++ [t.session] } := by
  have hclosed (k : Nat) : ¬ Open log k := by
    rw [← h.window k, hn]
    simp
  constructor
  case session => simpa using h.session
  case window =>
    intro k
    simp [open_concat, hclosed k]
  case armed =>
    intro k
    have hstale : ¬ Fresh log k := by
      intro hfresh
      exact hclosed k hfresh.toOpen
    simp [Interrupter.arm, fresh_concat, hstale]
  case grown =>
    have hgrown := h.grown
    rw [List.length_append]
    omega
  case begun =>
    intro k
    have hbegun := h.begun k
    have hgrown := h.grown
    simp only [List.mem_append, hbegun, List.mem_singleton, Happening.armed.injEq,
      List.length_append, List.length_cons, List.length_nil]
    omega
  case once => exact once_concat h (by simp)
  case turns =>
    intro k c hk hc
    have hhit : Hit (log ++ [.armed t.turns.length]) k ↔ Hit log k := by simp [hit_concat]
    rw [hhit]
    rw [List.getElem?_append] at hc
    split at hc
    · exact h.turns k c hk hc
    · next hlt =>
      -- the token is that of the session, and nobody could interrupt the turn before
      obtain rfl : c = t.session := by simpa using List.mem_of_getElem? hc
      have hnot : ¬ Hit log k := by
        intro hhit
        exact hlt ((h.begun k).mp hhit.armed_mem).2
      simp [hnot]
  case answers => exact answers_concat h (by simp)

theorem Told.disarm (h : Told t₀ log t) :
    Told t₀ (log ++ [.disarmed])
      { t with interrupter := t.interrupter.disarm, turn? := none } where
  session := by simpa using h.session
  window k := by simp [open_concat]
  armed k := by simp [Interrupter.disarm, fresh_concat]
  grown := h.grown
  begun k := by simpa using h.begun k
  once := once_concat h (by simp)
  turns k c hk hc := by simpa [hit_concat] using h.turns k c hk hc
  answers := answers_concat h (by simp)

theorem Told.cancel (h : Told t₀ log t) :
    Told t₀ (log ++ [.cancelled])
      { t with session := true, turns := t.turns.map fun _ => true } where
  session := by simp
  window k := by simpa [open_concat] using h.window k
  armed k := by simpa [fresh_concat] using h.armed k
  grown := by simpa using h.grown
  begun k := by simpa using h.begun k
  once := once_concat h (by simp)
  turns k c hk hc := by
    rw [List.getElem?_map, Option.map_eq_some_iff] at hc
    obtain ⟨b, -, rfl⟩ := hc
    simp
  answers := answers_concat h (by simp)

@[simp] theorem length_interrupt (t : Tokens) : t.interrupt.turns.length = t.turns.length := by
  unfold Tokens.interrupt
  cases t.interrupter.interrupt.1 <;> simp

/-- An interrupt cancels the token of the turn whose window is open; a second one finds it cancelled
already. -/
theorem Told.turns_interrupt (h : Told t₀ log t) {c : Bool} (hk : t₀.turns.length ≤ k)
    (hc : t.interrupt.turns[k]? = some c) :
    c = true ↔ t.session = true ∨ Open log k ∨ Hit log k := by
  simp only [Tokens.interrupt, Interrupter.interrupt] at hc
  cases ha : t.interrupter.armed with
  | none =>
    have hhit : Open log k → Hit log k := by
      intro hopen
      rcases hopen.fresh_or_hit with hfresh | hhit
      · have harmed := (h.armed k).mpr hfresh
        simp [ha] at harmed
      · exact hhit
    rw [ha] at hc
    rw [h.turns k c hk hc]
    tauto
  | some j =>
    have hj : t.turn? = some j := (h.window j).mpr ((h.armed j).mp ha).toOpen
    have hopen : Open log k ↔ k = j := by
      rw [← h.window k, hj, Option.some.injEq, eq_comm]
    rw [ha] at hc
    rw [hopen]
    by_cases hkj : k = j
    · subst hkj
      obtain ⟨-, rfl⟩ : k < t.turns.length ∧ true = c := by
        simpa [List.getElem?_set] using hc
      simp
    · rw [List.getElem?_set_ne (Ne.symm hkj)] at hc
      simpa [hkj] using h.turns k c hk hc

theorem Told.interrupt (h : Told t₀ log t) :
    Told t₀ (log ++ [.interrupted t.interrupter.armed.isSome]) t.interrupt where
  session := by simpa [Tokens.interrupt] using h.session
  window k := by simpa [Tokens.interrupt, open_concat] using h.window k
  armed k := by simp [Tokens.interrupt, Interrupter.interrupt, fresh_concat]
  grown := by simpa using h.grown
  begun k := by simpa using h.begun k
  once := once_concat h (by simp)
  turns k c hk hc := by
    rw [h.turns_interrupt hk hc]
    simp [Tokens.interrupt, hit_concat]
  answers := answers_concat h (by
    rintro found ⟨⟩
    rw [Option.isSome_iff_exists]
    exact exists_congr h.armed)

theorem Told.happen (h : Told t₀ log t) (hx : t.happen x = some t') : Told t₀ (log ++ [x]) t' := by
  cases x with
  | armed k =>
    simp only [Tokens.happen] at hx
    split at hx
    · next hk =>
      obtain ⟨hn, rfl⟩ := hk
      exact Option.some.inj hx ▸ h.arm hn
    · cases hx
  | disarmed =>
    simp only [Tokens.happen] at hx
    split at hx
    · cases hx
    · exact Option.some.inj hx ▸ h.disarm
  | interrupted found =>
    simp only [Tokens.happen] at hx
    split at hx
    · next hfound =>
      subst hfound
      exact Option.some.inj hx ▸ h.interrupt
    · cases hx
  | cancelled =>
    exact Option.some.inj hx ▸ h.cancel

theorem Told.run {xs : List Happening} (h : Told t₀ log t)
    (hr : xs.foldlM Tokens.happen t = some t') : Told t₀ (log ++ xs) t' :=
  keeps_foldlM_from (fun _ h hx => h.happen hx) hr h

end Tokens

end Session

end Parley
