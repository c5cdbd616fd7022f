import Parley.Json.Basic
import Parley.Proofs.Json.Written

/-! # Members of objects

What the reader of records finds in an object: its members of one name, in whatever order the
members stand and whatever others there are.
-/

namespace Parley.Json

def NamedBy : List (List Piece × Json) → List (String × Json) → Prop :=
  List.Forall₂ fun m n => Spells m.1 n.1.toList ∧ n.2 = m.2

/-- An object all of whose names are texts, with these values under a name. -/
def At (j : Json) (name : String) (values : List Json) : Prop :=
  ∃ members named, j = .object members ∧ NamedBy members named ∧
    (named.filter (·.1 == name)).map (·.2) = values

/-- A member that holds a text, or is null or missing. -/
def OptionalText (j : Json) (name : String) : Option String → Prop
  | some text => ∃ ps, j.At name [.string ps] ∧ Spells ps text.toList
  | none => j.At name [] ∨ j.At name [.null]

variable {j : Json} {name : String} {value : Option String} {fields : List Field}
  {found : List (Option Json)} {members : List (List Piece × Json)} {named : List (String × Json)}

theorem NamedBy.mapM_eq (h : NamedBy members named) :
    (members.mapM fun m => (textOf? m.1).map (·, m.2)) = some named := by
  induction h with
  | nil => rfl
  | @cons m n _ _ hmn _ ih =>
    obtain ⟨hname, hvalue⟩ := hmn
    rw [List.mapM_cons, textOf?_of_spells hname, ih, ← hvalue]
    rfl

theorem member?_eq {value : Option Json}
    (h : (named.filter (·.1 == name)).map (·.2) = value.toList) :
    member? named name = some value := by
  rw [member?]
  cases value with
  | none => rw [List.map_eq_nil_iff.mp h]
  | some v =>
    obtain ⟨m, hm, rfl⟩ := List.map_eq_singleton_iff.mp h
    rw [hm]

theorem member?_of_at {value : Option Json} (hnamed : NamedBy members named)
    (h : (object members).At name value.toList) : member? named name = some value := by
  obtain ⟨members', named', hj, hnamed', hvalues⟩ := h
  obtain rfl := Json.object.inj hj
  obtain rfl := Option.some.inj (hnamed.mapM_eq.symm.trans hnamed'.mapM_eq)
  exact member?_eq hvalues

theorem record?_eq (hne : fields ≠ [])
    (h : List.Forall₂ (fun field value => j.At field.name value.toList) fields found) :
    j.record? fields = some found := by
  obtain ⟨members, named, rfl, hnamed⟩ : ∃ members named, j = .object members ∧
      NamedBy members named := by
    cases h with
    | nil => exact absurd rfl hne
    | cons hfirst =>
      obtain ⟨members, named, hj, hnamed, -⟩ := hfirst
      exact ⟨members, named, hj, hnamed⟩
  have hfields : fields.mapM (fun field => member? named field.name) = some found := by
    clear hne
    induction h with
    | nil => rfl
    | cons hfirst _ ih =>
      rw [List.mapM_cons, member?_of_at hnamed hfirst, ih]
      rfl
  rw [record?, hnamed.mapM_eq]
  exact hfields

theorem exists_optional (h : j.OptionalText name value) :
    ∃ v : Option Json, j.At name v.toList ∧ optional? text? v = some value := by
  cases value with
  | some text =>
    obtain ⟨ps, hat, hspells⟩ := h
    refine ⟨some (.string ps), hat, ?_⟩
    simp [optional?, text?, textOf?_of_spells hspells]
  | none =>
    rcases h with hat | hat
    · exact ⟨none, hat, rfl⟩
    · exact ⟨some .null, hat, rfl⟩

end Parley.Json
