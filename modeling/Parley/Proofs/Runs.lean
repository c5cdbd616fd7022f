import Mathlib.Tactic.TypeStar

/-! # Runs

A run makes moves one after the other, and stops short if a move cannot be made. What every single
move keeps, the run keeps, and so it is with what is said of all moves made so far. A system that
remembers more runs as the system underneath; and where a move can always be made that lowers a
rank, there is a run to the end.
-/

namespace Parley

variable {σ τ μ : Type*} {step : σ → μ → Option σ} {s t u : σ} {before ms : List μ}

theorem foldlM_cons_iff {m : μ} :
    (m :: ms).foldlM step s = some u ↔ ∃ t, step s m = some t ∧ ms.foldlM step t = some u := by
  rw [List.foldlM_cons]
  exact Option.bind_eq_some_iff

/-- What a move takes from the moves before it to the moves with it, a run takes to all of its
moves. -/
theorem keeps_foldlM_from {P : List μ → σ → Prop}
    (h : ∀ {ms s t} (m : μ), P ms s → step s m = some t → P (ms ++ [m]) t)
    (hr : ms.foldlM step s = some t) (hs : P before s) : P (before ++ ms) t := by
  induction ms generalizing s before with
  | nil =>
    obtain rfl := Option.some.inj hr
    rwa [List.append_nil]
  | cons m ms ih =>
    obtain ⟨u, hu, hr⟩ := foldlM_cons_iff.mp hr
    rw [List.append_cons]
    exact ih hr (h m hs hu)

theorem keeps_foldlM {P : σ → Prop} (h : ∀ {s t} (m : μ), P s → step s m = some t → P t)
    (hr : ms.foldlM step s = some t) (hs : P s) : P t :=
  @keeps_foldlM_from σ μ step s t [] ms (fun _ s => P s) h hr hs

theorem map_foldlM {step' : τ → μ → Option τ} {f : τ → σ}
    (h : ∀ x m, (step' x m).map f = step (f x) m) (x : τ) (ms : List μ) :
    (ms.foldlM step' x).map f = ms.foldlM step (f x) := by
  induction ms generalizing x with
  | nil => rfl
  | cons m ms ih =>
    rw [List.foldlM_cons, List.foldlM_cons, ← h x m]
    cases step' x m with
    | none => rfl
    | some y => exact ih y

theorem toOption_eq_some_iff {ε α : Type*} {x : Except ε α} {a : α} :
    x.toOption = some a ↔ x = .ok a := by
  cases x <;> simp [Except.toOption]

/-- If one of the tasks lowers the rank and keeps `P` wherever the goal is not reached, tasks lead to
the goal. -/
theorem exists_run (P Goal : σ → Prop) (rank : σ → Nat) {tasks : List μ}
    (hmove : ∀ s, P s → ¬ Goal s →
      ∃ m ∈ tasks, ∃ t, step s m = some t ∧ rank t < rank s ∧ P t)
    (hs : P s) :
    ∃ (ms : List μ) (t : σ), (∀ m ∈ ms, m ∈ tasks) ∧ ms.foldlM step s = some t ∧ P t ∧ Goal t := by
  induction hn : rank s using Nat.strongRecOn generalizing s with
  | ind n ih =>
    by_cases hgoal : Goal s
    · exact ⟨[], s, by simp, rfl, hs, hgoal⟩
    · obtain ⟨m, hm, t, hstep, hlt, ht⟩ := hmove s hs hgoal
      obtain ⟨ms, u, hms, hrun, hu, hgoal⟩ := ih (rank t) (hn ▸ hlt) ht rfl
      exact ⟨m :: ms, u, List.forall_mem_cons.mpr ⟨hm, hms⟩,
        foldlM_cons_iff.mpr ⟨t, hstep, hrun⟩, hu, hgoal⟩

end Parley
