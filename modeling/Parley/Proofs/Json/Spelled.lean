import Parley.Proofs.Json.Record
import Mathlib.Data.List.Forall2

/-! # Texts in writing

Every text can be written between quotes on one line. Most characters stand for themselves; the
others have an escape.
-/

namespace Parley.Json

variable {cs text : List Char} {ps : List Piece} {j : Json}

/-- Characters that stand for themselves inside a string. -/
def IsPlain (cs : List Char) : Prop :=
  ∀ c ∈ cs, c ≠ '"' ∧ c ≠ '\\' ∧ 0x20 ≤ c.toNat

instance : Decidable (IsPlain cs) :=
  List.decidableBAll (fun c => c ≠ '"' ∧ c ≠ '\\' ∧ 0x20 ≤ c.toNat) cs

theorem quoted_of_isPlain (h : IsPlain cs) : Quoted (cs.map fun c => .symbol (some c)) cs := by
  induction cs with
  | nil => exact .nil
  | cons c cs ih =>
    obtain ⟨⟨hquote, hslash, hcode⟩, hcs⟩ := List.forall_mem_cons.mp h
    exact .cons (.plain hquote hslash hcode) (ih hcs)

theorem spells_symbols (cs : List Char) : Spells (cs.map fun c => .symbol (some c)) cs := by
  induction cs with
  | nil => exact .nil
  | cons c cs ih => exact .symbol ih

theorem namedBy_ofMembers (members : List (String × Json)) :
    NamedBy (members.map fun m => (piecesOf m.1, m.2)) members :=
  List.forall₂_map_left_iff.mpr (List.forall₂_same.mpr fun m _ => ⟨spells_symbols m.1.toList, rfl⟩)

theorem at_ofMembers (members : List (String × Json)) (name : String) :
    (ofMembers members).At name ((members.filter (·.1 == name)).map (·.2)) :=
  ⟨_, members, rfl, namedBy_ofMembers members, rfl⟩

theorem written_ofText (name : String) (h : IsPlain name.toList) :
    Written (ofText name) ('"' :: (name.toList ++ ['"'])) :=
  .string (quoted_of_isPlain h)

theorem named_piecesOf (name : String) (h : IsPlain name.toList) :
    Named (piecesOf name) ('"' :: (name.toList ++ ['"'])) :=
  ⟨[], name.toList, [], rfl, by simp [AllBlank], quoted_of_isPlain h, by simp [AllBlank]⟩

theorem Written.padded (h : Written j cs) : Padded j cs := by
  have hpadded : Padded j ([] ++ (cs ++ [])) := .mk (by simp [AllBlank]) h (by simp [AllBlank])
  rwa [List.append_nil] at hpadded

/-- A text between quotes that stands on one line. -/
structure SpelledAs (text cs : List Char) (ps : List Piece) : Prop where
  quoted : Quoted ps cs
  spells : Spells ps text
  newline : '\n' ∉ cs
  carriageReturn : '\r' ∉ cs

theorem spelledAs_of_isPlain (h : IsPlain cs) :
    SpelledAs cs cs (cs.map fun c => .symbol (some c)) where
  quoted := quoted_of_isPlain h
  spells := spells_symbols cs
  newline hc := by simpa using (h '\n' hc).2.2
  carriageReturn hc := by simpa using (h '\r' hc).2.2

theorem hexUnit?_control : ∀ code < 0x20,
    hexUnit? '0' '0' (Nat.digitChar (code / 16)) (Nat.digitChar (code % 16)) = some code ∧
      Nat.digitChar (code / 16) ≠ '\n' ∧ Nat.digitChar (code % 16) ≠ '\n' ∧
      Nat.digitChar (code / 16) ≠ '\r' ∧ Nat.digitChar (code % 16) ≠ '\r' := by
  decide

theorem SpelledAs.exists_cons (h : SpelledAs text cs ps) (c : Char) :
    ∃ cs ps, SpelledAs (c :: text) cs ps := by
  obtain ⟨hquoted, hspells, hnewline, hreturn⟩ := h
  by_cases hcode : c.toNat < 0x20
  · obtain ⟨hunit, hn₁, hn₂, hr₁, hr₂⟩ := hexUnit?_control c.toNat hcode
    exact ⟨_, _, .cons (.unit hunit) hquoted, .unit hspells, by simp [hnewline, hn₁.symm, hn₂.symm],
      by simp [hreturn, hr₁.symm, hr₂.symm]⟩
  · have hn : c ≠ '\n' := fun hc => hcode (hc ▸ by decide)
    have hr : c ≠ '\r' := fun hc => hcode (hc ▸ by decide)
    by_cases hmark : c = '"' ∨ c = '\\'
    · have hshort : shortEscape? c = some c := by rcases hmark with rfl | rfl <;> rfl
      exact ⟨_, _, .cons (.short hshort) hquoted, .symbol hspells, by simp [hnewline, hn.symm],
        by simp [hreturn, hr.symm]⟩
    · obtain ⟨hquote, hslash⟩ := not_or.mp hmark
      exact ⟨_, _, .cons (.plain hquote hslash (by omega)) hquoted, .symbol hspells,
        by simp [hnewline, hn.symm], by simp [hreturn, hr.symm]⟩

theorem exists_spelledAs (text : List Char) : ∃ cs ps, SpelledAs text cs ps := by
  induction text with
  | nil => exact ⟨[], [], .nil, .nil, List.not_mem_nil, List.not_mem_nil⟩
  | cons c text ih =>
    obtain ⟨cs, ps, h⟩ := ih
    exact h.exists_cons c

end Parley.Json
