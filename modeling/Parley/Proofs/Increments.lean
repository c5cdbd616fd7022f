import Parley.Channel
import Mathlib.Tactic.Common

/-! # Lists of increments

A stream is over with its first terminal increment, whatever is sent after it. The text of a stream
is gathered from the increments that are no failures.
-/

namespace Parley.Increment

theorem kinds (i : Increment) :
    (i.isError = true ∧ i.isLast = false ∧ i.isTerminal = true) ∨
      (i.isError = false ∧ i.isLast = true ∧ i.isTerminal = true) ∨
      (i.isError = false ∧ i.isLast = false ∧ i.isTerminal = false) := by
  cases hd : i.done <;> cases he : i.isError <;> simp [isLast, isTerminal, hd, he]

theorem isTerminal_of_isError {i : Increment} (h : i.isError = true) : i.isTerminal = true := by
  simp [isTerminal, h]

theorem isTerminal_of_isLast {i : Increment} (h : i.isLast = true) : i.isTerminal = true := by
  simp_all [isLast, isTerminal]

/-- The text of a stream: the texts of its increments in their order, failures left out. -/
def gathered (is : List Increment) : String :=
  String.join ((is.filter fun i => !i.isError).map Increment.text)

/-- A stream up to its first terminal increment, which belongs to it. -/
def upToTerminal : List Increment → List Increment
  | [] => []
  | i :: is => if i.isTerminal then [i] else i :: upToTerminal is

/-- No increment of the list ends the stream. -/
def Calm (is : List Increment) : Prop :=
  ∀ i ∈ is, i.isTerminal = false

variable {is js : List Increment} {i : Increment}

theorem gathered_concat (h : i.isError = false) : gathered (is ++ [i]) = gathered is ++ i.text := by
  simp [gathered, h, String.join, List.foldl_append]

theorem gathered_concat_failure (h : i.isError = true) : gathered (is ++ [i]) = gathered is := by
  simp [gathered, h]

@[simp] theorem calm_nil : Calm [] :=
  fun _ h => absurd h List.not_mem_nil

theorem Calm.concat (h : Calm is) (hi : i.isTerminal = false) : Calm (is ++ [i]) := by
  intro j hj
  rcases List.mem_append.mp hj with hj | hj
  · exact h j hj
  · exact List.mem_singleton.mp hj ▸ hi

theorem Calm.dropLast (h : Calm is) : Calm is.dropLast :=
  fun j hj => h j ((List.dropLast_sublist is).subset hj)

theorem upToTerminal_calm (h : Calm is) : upToTerminal (is ++ js) = is ++ upToTerminal js := by
  induction is with
  | nil => rfl
  | cons j is ih =>
    have hj : j.isTerminal = false := h j List.mem_cons_self
    simp [upToTerminal, hj, ih fun k hk => h k (List.mem_cons_of_mem j hk)]

theorem upToTerminal_of_calm (h : Calm is) : upToTerminal is = is := by
  have hnil : upToTerminal (is ++ []) = is ++ upToTerminal [] := upToTerminal_calm h
  simpa [upToTerminal] using hnil

/-- A stream that has been calm but for its last increment is not over before that increment. -/
theorem prefix_upToTerminal (h : Calm is.dropLast) (hp : is <+: js) : is <+: upToTerminal js := by
  obtain ⟨ks, rfl⟩ := hp
  rcases List.eq_nil_or_concat is with rfl | ⟨is, i, rfl⟩
  · exact List.nil_prefix
  · rw [List.concat_eq_append] at h ⊢
    rw [List.dropLast_concat] at h
    rw [List.append_assoc, upToTerminal_calm h, List.singleton_append, upToTerminal,
      List.prefix_append_right_inj]
    split
    · exact List.prefix_rfl
    · exact List.prefix_append [i] _

theorem upToTerminal_eq_of_terminal (h : Calm is) (hi : i.isTerminal = true) :
    upToTerminal (is ++ [i] ++ js) = is ++ [i] := by
  rw [List.append_assoc, upToTerminal_calm h]
  simp [upToTerminal, hi]

theorem find?_of_calm (h : Calm is) (js : List Increment) :
    (is ++ js).find? Increment.isTerminal = js.find? Increment.isTerminal := by
  have hnone : is.find? Increment.isTerminal = none := by simpa [Calm] using h
  simp [List.find?_append, hnone]

theorem calm_texts (ts : List String) : Calm (ts.map ofText) := by
  intro i hi
  obtain ⟨t, -, rfl⟩ := List.mem_map.mp hi
  rfl

theorem gathered_texts (ts : List String) :
    gathered (ts.map ofText ++ [last ""]) = String.join ts := by
  have hall : (ts.map ofText).filter (fun i => !i.isError) = ts.map ofText := by
    refine List.filter_eq_self.mpr fun i hi => ?_
    obtain ⟨t, -, rfl⟩ := List.mem_map.mp hi
    rfl
  have htexts : (ts.map ofText).map Increment.text = ts := by
    rw [List.map_map]
    exact List.map_id ts
  rw [gathered_concat rfl, gathered, hall, htexts]
  exact String.append_empty

end Parley.Increment
