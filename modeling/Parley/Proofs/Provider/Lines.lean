import Parley.Proofs.Provider.Chunks

/-! # Lines

A text is made of lines, and a frame of lines none of which is blank but the first: a blank line
behind another one ends the frame.
-/

namespace Parley.Provider

variable {cs ds l : List Char} {ls ms : List (List Char)}

theorem lines_of_not_mem (h : '\n' ∉ cs) : lines cs = [cs] := by
  induction cs with
  | nil => rfl
  | cons c cs ih =>
    rw [List.mem_cons, not_or] at h
    rw [lines, ih h.2]
    exact fun hc => h.1 hc.symm

theorem lines_append (h : '\n' ∉ cs) (ds : List Char) :
    lines (cs ++ '\n' :: ds) = cs :: lines ds := by
  induction cs with
  | nil => rfl
  | cons c cs ih =>
    rw [List.mem_cons, not_or] at h
    rw [List.cons_append, lines, ih h.2]
    exact fun hc => h.1 hc.symm

/-- The text of some lines. A line feed ends each of them. -/
def ended (ls : List (List Char)) : List Char :=
  ls.flatMap (· ++ ['\n'])

def joined (ls : List (List Char)) : List Char :=
  ['\n'].intercalate ls

theorem ended_append : ended (ls ++ ms) = ended ls ++ ended ms :=
  List.flatMap_append

theorem ended_cons : ended (l :: ls) = l ++ '\n' :: ended ls := by
  simp [ended]

theorem joined_cons_cons {m : List Char} :
    joined (l :: m :: ls) = l ++ '\n' :: joined (m :: ls) := by
  rw [joined, List.intercalate_cons_cons, List.append_assoc]
  rfl

theorem joined_singleton : joined [l] = l :=
  List.intercalate_singleton

theorem ended_eq_joined (h : ls ≠ []) : ended ls = joined ls ++ ['\n'] := by
  induction ls with
  | nil => exact absurd rfl h
  | cons l ls ih =>
    cases ls with
    | nil => simp [ended, joined_singleton]
    | cons m ls =>
      rw [ended_cons, ih (by simp), joined_cons_cons, List.append_assoc, List.cons_append]

theorem lines_joined (hne : ls ≠ []) (h : ∀ l ∈ ls, '\n' ∉ l) : lines (joined ls) = ls := by
  induction ls with
  | nil => exact absurd rfl hne
  | cons l ls ih =>
    have hl : '\n' ∉ l := h l List.mem_cons_self
    cases ls with
    | nil => rw [joined_singleton, lines_of_not_mem hl]
    | cons m ls =>
      have hls : ∀ n ∈ m :: ls, '\n' ∉ n := fun n hn => h n (List.mem_cons_of_mem l hn)
      rw [joined_cons_cons, lines_append hl, ih (by simp) hls]

namespace EventStream

/-- What holds no end of a line belongs to the frame that comes next. -/
theorem frames_append {g : List Char} {gs : List (List Char)} {after : List Char}
    (hcs : '\n' ∉ cs) (h : frames ds = (g :: gs, after)) :
    frames (cs ++ ds) = ((cs ++ g) :: gs, after) := by
  induction cs with
  | nil => exact h
  | cons c cs ih =>
    rw [List.mem_cons, not_or] at hcs
    rw [List.cons_append, frames_cons fun hc => absurd hc.symm hcs.1, ih hcs.2]
    rfl

theorem frames_append_open {after : List Char} (hcs : '\n' ∉ cs) (h : frames ds = ([], after)) :
    frames (cs ++ ds) = ([], cs ++ after) := by
  induction cs with
  | nil => exact h
  | cons c cs ih =>
    rw [List.mem_cons, not_or] at hcs
    rw [List.cons_append, frames_cons fun hc => absurd hc.symm hcs.1, ih hcs.2]
    rfl

theorem head?_ne_newline_of_line {rest : List Char} (hl : l ≠ []) (h : '\n' ∉ l) :
    (l ++ rest).head? ≠ some '\n' := by
  cases l with
  | nil => exact absurd rfl hl
  | cons c l =>
    intro hc
    obtain rfl : c = '\n' := by simpa using hc
    exact h List.mem_cons_self

theorem frames_ended_open (hblank : [] ∉ ls.tail) (h : ∀ l ∈ ls, '\n' ∉ l) :
    frames (ended ls) = ([], ended ls) := by
  induction ls with
  | nil => rfl
  | cons l ls ih =>
    rw [List.forall_mem_cons] at h
    have hrest := ih (fun hm => hblank (List.mem_of_mem_tail hm)) h.2
    have hhead : (ended ls).head? ≠ some '\n' := by
      cases ls with
      | nil => simp [ended]
      | cons m ls =>
        rw [ended_cons]
        exact head?_ne_newline_of_line (fun hm => hblank (by simp [hm])) (h.2 m List.mem_cons_self)
    rw [ended_cons]
    apply frames_append_open h.1
    rw [frames_cons fun _ => hhead, hrest]

theorem frames_joined (hne : ls ≠ []) (hblank : [] ∉ ls.tail) (h : ∀ l ∈ ls, '\n' ∉ l)
    (rest : List Char) :
    frames (joined ls ++ '\n' :: '\n' :: rest) =
      (joined ls :: (frames rest).1, (frames rest).2) := by
  -- no line feed inside meets a second one, since the line behind it is not blank
  induction ls with
  | nil => exact absurd rfl hne
  | cons l ls ih =>
    rw [List.forall_mem_cons] at h
    cases ls with
    | nil =>
      have hend : frames ('\n' :: '\n' :: rest) = ([] :: (frames rest).1, (frames rest).2) := by
        rw [frames]
      have hframe := frames_append h.1 hend
      rwa [List.append_nil, ← joined_singleton (l := l)] at hframe
    | cons m ls =>
      have hm : m ≠ [] := fun hm => hblank (by simp [hm])
      have hrest := ih (by simp) (fun hn => hblank (List.mem_of_mem_tail hn)) h.2
      have hhead : (joined (m :: ls) ++ '\n' :: '\n' :: rest).head? ≠ some '\n' := by
        have hm' := h.2 m List.mem_cons_self
        cases ls with
        | nil =>
          rw [joined_singleton]
          exact head?_ne_newline_of_line hm hm'
        | cons n ls =>
          rw [joined_cons_cons, List.append_assoc]
          exact head?_ne_newline_of_line hm hm'
      rw [joined_cons_cons, List.append_assoc, List.cons_append]
      apply frames_append h.1
      rw [frames_cons fun _ => hhead, hrest]

theorem frames_joined_open (hblank : [] ∉ ls.tail) (h : ∀ l ∈ ls, '\n' ∉ l) :
    frames (joined ls) = ([], joined ls) := by
  have hopen : (frames (joined ls)).1 <+: [] := by
    have hended := frames_ended_open hblank h
    have hmono : (frames (joined ls)).1 <+: (frames (ended ls)).1 := by
      apply frames_mono
      by_cases hls : ls = []
      · subst hls
        exact List.prefix_refl _
      · rw [ended_eq_joined hls]
        exact List.prefix_append ..
    rwa [hended] at hmono
  have hnone := List.prefix_nil.mp hopen
  have hwhole := framed_append_eq (joined ls)
  rw [hnone] at hwhole
  exact Prod.ext hnone hwhole

end EventStream

end Parley.Provider
