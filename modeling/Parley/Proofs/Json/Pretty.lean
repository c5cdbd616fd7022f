import Parley.Json.Writer
import Parley.Proofs.Json.Spelled

/-! # Writing read back

A value that is laid out with one item a line is read as the same value, but for the control
characters in its texts: those without a short escape are written by their codes, and are read as
codes. They spell the same text.
-/

namespace Parley.Json

/-- A unit of a string that has a written form: a character, or a code of four digits. -/
def Piece.HasForm : Piece → Prop
  | .symbol s => s.isSome
  | .unit code => code < 0x10000

/-- A unit as it is read back. A character that is written by its code is read as this code. -/
def Piece.reread : Piece → Piece
  | .symbol (some c) => if escape c = unitEscape c.toNat then .unit c.toNat else .symbol (some c)
  | p => p

variable {c : Char} {p : Piece} {ps : List Piece} {cs : List Char} {j : Json} {code : Nat}

theorem hexDigit?_hexDigit : ∀ n < 16, hexDigit? (hexDigit n) = some n := by
  decide

theorem written_unitEscape (h : code < 0x10000) : (Piece.unit code).Written (unitEscape code) := by
  apply Piece.Written.unit
  have hdigit (n : Nat) : hexDigit? (hexDigit (n % 16)) = some (n % 16) :=
    hexDigit?_hexDigit _ (Nat.mod_lt _ (by decide))
  simp only [hexUnit?, hdigit]
  refine congrArg some ?_
  omega

theorem escape_cases (c : Char) :
    escape c = unitEscape c.toNat ∧ c.toNat < 0x20 ∨
      (∃ e, escape c = ['\\', e] ∧ shortEscape? e = some c) ∨
      escape c = [c] ∧ c ≠ '"' ∧ c ≠ '\\' ∧ 0x20 ≤ c.toNat := by
  unfold escape
  split_ifs with hquote hslash hb hf hn hr ht hcode
  · exact .inr (.inl ⟨'"', rfl, by rw [hquote]; rfl⟩)
  · exact .inr (.inl ⟨'\\', rfl, by rw [hslash]; rfl⟩)
  · exact .inr (.inl ⟨'b', rfl, hb ▸ rfl⟩)
  · exact .inr (.inl ⟨'f', rfl, hf ▸ rfl⟩)
  · exact .inr (.inl ⟨'n', rfl, hn ▸ rfl⟩)
  · exact .inr (.inl ⟨'r', rfl, hr ▸ rfl⟩)
  · exact .inr (.inl ⟨'t', rfl, ht ▸ rfl⟩)
  · exact .inl ⟨rfl, hcode⟩
  · exact .inr (.inr ⟨rfl, hquote, hslash, by omega⟩)

theorem written_escape (c : Char) : (Piece.symbol (some c)).reread.Written (escape c) := by
  rcases escape_cases c with ⟨hunit, hcode⟩ | ⟨e, hshort, he⟩ | ⟨hplain, hquote, hslash, hcode⟩
  · rw [Piece.reread, if_pos hunit, hunit]
    exact written_unitEscape (by omega)
  · rw [Piece.reread, if_neg (by simp [hshort, unitEscape]), hshort]
    exact .short he
  · rw [Piece.reread, if_neg (by simp [hplain, unitEscape]), hplain]
    exact .plain hquote hslash hcode

theorem written_pieceText (h : p.HasForm) : p.reread.Written (pieceText p) := by
  match p with
  | .symbol (some c) => exact written_escape c
  | .symbol none => cases h
  | .unit code => exact written_unitEscape h

theorem quoted_flatMap (h : ∀ p ∈ ps, p.HasForm) :
    Quoted (ps.map Piece.reread) (ps.flatMap pieceText) := by
  induction ps with
  | nil => exact .nil
  | cons p ps ih =>
    rw [List.forall_mem_cons] at h
    exact .cons (written_pieceText h.1) (ih h.2)

theorem spells_reread (cs : List Char) :
    Spells ((cs.map fun c => .symbol (some c)).map Piece.reread) cs := by
  induction cs with
  | nil => exact .nil
  | cons c cs ih =>
    rw [List.map_cons, List.map_cons, Piece.reread]
    split
    · exact .unit ih
    · exact .symbol ih

mutual

/-- A value that has a written form: its numbers are numbers, and its strings hold no bytes that form
no character. -/
def HasForm : Json → Prop
  | .number literal => IsNumber literal
  | .string pieces => ∀ p ∈ pieces, p.HasForm
  | .array items => ItemsHaveForm items
  | .object members => MembersHaveForm members
  | _ => True

def ItemsHaveForm : List Json → Prop
  | [] => True
  | j :: rest => HasForm j ∧ ItemsHaveForm rest

def MembersHaveForm : List (List Piece × Json) → Prop
  | [] => True
  | (key, j) :: rest => (∀ p ∈ key, p.HasForm) ∧ HasForm j ∧ MembersHaveForm rest

end

mutual

def reread : Json → Json
  | .string pieces => .string (pieces.map Piece.reread)
  | .array items => .array (rereadItems items)
  | .object members => .object (rereadMembers members)
  | j => j

def rereadItems : List Json → List Json
  | [] => []
  | j :: rest => reread j :: rereadItems rest

def rereadMembers : List (List Piece × Json) → List (List Piece × Json)
  | [] => []
  | (key, j) :: rest => (key.map Piece.reread, reread j) :: rereadMembers rest

end

theorem allBlank_newLine (level : Nat) : AllBlank (newLine level) := by
  intro c hc
  rcases List.mem_cons.mp hc with rfl | hc
  · rfl
  · rw [List.eq_of_mem_replicate hc]
    rfl

theorem allBlank_nil : AllBlank [] := by
  simp [AllBlank]

theorem allBlank_space : AllBlank [' '] := by
  simp [AllBlank, isBlank]

theorem named_newLine (h : ∀ p ∈ ps, p.HasForm) (level : Nat) :
    Named (ps.map Piece.reread) (newLine level ++ stringText ps) :=
  ⟨newLine level, ps.flatMap pieceText, [], by simp [stringText], allBlank_newLine level,
    quoted_flatMap h, allBlank_nil⟩

mutual

theorem written_prettyText (level : Nat) :
    ∀ {j : Json}, j.HasForm → Written j.reread (prettyText level j)
  | .null, _ => .null
  | .bool true, _ => .yes
  | .bool false, _ => .no
  | .number _, h => .number h
  | .string _, h => .string (quoted_flatMap h)
  | .array [], _ => .noItems allBlank_nil
  | .array (j :: rest), h => by
    rw [HasForm, ItemsHaveForm] at h
    have hfirst := written_prettyText (level + 1) h.1
    obtain ⟨cs, hcs, hitems⟩ := written_prettyItems level h.2 hfirst
    rw [prettyText, reread, rereadItems, hcs]
    exact .items hitems
  | .object [], _ => .noMembers allBlank_nil
  | .object ((key, j) :: rest), h => by
    rw [HasForm, MembersHaveForm] at h
    have hfirst := written_prettyText (level + 1) h.2.1
    obtain ⟨cs, hcs, hmembers⟩ := written_prettyMembers level h.2.2 h.1 hfirst
    rw [prettyText, reread, rereadMembers, hcs]
    exact .members hmembers

theorem written_prettyItems (level : Nat) :
    ∀ {rest : List Json}, ItemsHaveForm rest → ∀ {j : Json} {front : List Char}, Written j front →
      ∃ cs, newLine (level + 1) ++ (front ++ prettyItems level rest) = cs ++ [']'] ∧
        ItemsWritten (j :: rereadItems rest) cs
  | [], _, _, _, hfront => by
    refine ⟨_, ?_, .last (.mk (allBlank_newLine (level + 1)) hfront (allBlank_newLine level))⟩
    simp [prettyItems]
  | i :: rest, h, _, _, hfront => by
    rw [ItemsHaveForm] at h
    have hfirst := written_prettyText (level + 1) h.1
    obtain ⟨cs, hcs, hitems⟩ := written_prettyItems level h.2 hfirst
    refine ⟨_, ?_, .cons (.mk (allBlank_newLine (level + 1)) hfront allBlank_nil) hitems⟩
    simp [prettyItems, hcs]

theorem written_prettyMembers (level : Nat) :
    ∀ {rest : List (List Piece × Json)}, MembersHaveForm rest → ∀ {key : List Piece} {j : Json}
      {front : List Char}, (∀ p ∈ key, p.HasForm) → Written j front →
      ∃ cs, newLine (level + 1) ++ (stringText key ++
          ':' :: ' ' :: (front ++ prettyMembers level rest)) = cs ++ ['}'] ∧
        MembersWritten ((key.map Piece.reread, j) :: rereadMembers rest) cs
  | [], _, _, _, _, hkey, hfront => by
    have hname := named_newLine hkey (level + 1)
    refine ⟨_, ?_, .last hname (.mk allBlank_space hfront (allBlank_newLine level))⟩
    simp [prettyMembers]
  | (name, i) :: rest, h, _, _, _, hkey, hfront => by
    rw [MembersHaveForm] at h
    have hname := named_newLine hkey (level + 1)
    have hfirst := written_prettyText (level + 1) h.2.1
    obtain ⟨cs, hcs, hmembers⟩ := written_prettyMembers level h.2.2 h.1 hfirst
    refine ⟨_, ?_, .cons hname (.mk allBlank_space hfront allBlank_nil) hmembers⟩
    simp [prettyMembers, hcs]

end

theorem parse?_pretty (h : j.HasForm) : parse? j.pretty = some j.reread := by
  rw [parse?, pretty, String.toList_ofList]
  exact ofSymbols?_of_written (written_prettyText 0 h)

theorem piecesOf_haveForm (text : String) : ∀ p ∈ piecesOf text, p.HasForm := by
  intro p hp
  obtain ⟨c, -, rfl⟩ := List.mem_map.mp hp
  rfl

theorem hasForm_ofText (text : String) : (ofText text).HasForm := by
  rw [ofText, HasForm]
  exact piecesOf_haveForm text

theorem hasForm_array {items : List Json} (h : ∀ j ∈ items, j.HasForm) : (array items).HasForm := by
  rw [HasForm]
  induction items with
  | nil => rw [ItemsHaveForm]; trivial
  | cons j items ih =>
    rw [List.forall_mem_cons] at h
    rw [ItemsHaveForm]
    exact ⟨h.1, ih h.2⟩

theorem hasForm_ofMembers {members : List (String × Json)} (h : ∀ m ∈ members, m.2.HasForm) :
    (ofMembers members).HasForm := by
  rw [ofMembers, HasForm]
  induction members with
  | nil => rw [List.map_nil, MembersHaveForm]; trivial
  | cons m members ih =>
    rw [List.forall_mem_cons] at h
    rw [List.map_cons, MembersHaveForm]
    exact ⟨piecesOf_haveForm m.1, h.1, ih h.2⟩

theorem text?_reread_ofText (text : String) : (ofText text).reread.text? = some text := by
  rw [ofText, reread, text?]
  exact textOf?_of_spells (spells_reread text.toList)

theorem reread_array (items : List Json) : (array items).reread = array (items.map reread) := by
  rw [reread]
  induction items with
  | nil => rw [rereadItems, List.map_nil]
  | cons j items ih =>
    rw [rereadItems, List.map_cons, Json.array.inj ih]

theorem at_reread_ofMembers (members : List (String × Json)) (name : String) :
    (ofMembers members).reread.At name ((members.filter (·.1 == name)).map (·.2.reread)) := by
  have hnamed : NamedBy (rereadMembers (members.map fun m => (piecesOf m.1, m.2)))
      (members.map fun m => (m.1, m.2.reread)) := by
    induction members with
    | nil =>
      rw [List.map_nil, rereadMembers]
      exact .nil
    | cons m members ih =>
      rw [List.map_cons, rereadMembers]
      exact .cons ⟨spells_reread m.1.toList, rfl⟩ ih
  refine ⟨_, _, by rw [ofMembers, reread], hnamed, ?_⟩
  rw [List.filter_map, List.map_map]
  rfl

end Parley.Json
