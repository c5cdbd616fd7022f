import Parley.Json.Reader
import Parley.Text.Blank
import Mathlib.Tactic.Common

/-! # Written JSON

The ways in which a value can be written, and the reader that accepts every one of them: any escape
for a character that has one, any blanks between two symbols, and any form of a number.
-/

namespace Parley.Json

inductive Piece.Written : Piece → List Char → Prop where

  | plain {c : Char} : c ≠ '"' → c ≠ '\\' → 0x20 ≤ c.toNat → Written (.symbol (some c)) [c]

  | short {e c : Char} : shortEscape? e = some c → Written (.symbol (some c)) ['\\', e]

  | unit {a b c d : Char} {code : Nat} : hexUnit? a b c d = some code →
      Written (.unit code) ['\\', 'u', a, b, c, d]

/-- What stands between the quotes of a string. -/
inductive Quoted : List Piece → List Char → Prop where

  | nil : Quoted [] []

  | cons {p : Piece} {ps : List Piece} {front cs : List Char} : p.Written front → Quoted ps cs →
      Quoted (p :: ps) (front ++ cs)

/-- The ways to spell a text: each character by itself, as an escape of its code, or as a pair of
escapes. -/
inductive Spells : List Piece → List Char → Prop where

  | nil : Spells [] []

  | symbol {c : Char} {ps : List Piece} {cs : List Char} : Spells ps cs →
      Spells (.symbol (some c) :: ps) (c :: cs)

  | unit {c : Char} {ps : List Piece} {cs : List Char} : Spells ps cs →
      Spells (.unit c.toNat :: ps) (c :: cs)

  | pair {c : Char} {hi lo : Nat} {ps : List Piece} {cs : List Char} :
      0xD800 ≤ hi → hi ≤ 0xDBFF → 0xDC00 ≤ lo → lo ≤ 0xDFFF →
      c.toNat = 0x10000 + (hi - 0xD800) * 0x400 + (lo - 0xDC00) → Spells ps cs →
      Spells (.unit hi :: .unit lo :: ps) (c :: cs)

variable {ps : List Piece} {cs ds ws literal : List Char} {rest : List Symbol} {c : Char} {j : Json}
  {n : Nat}

theorem charsOf?_of_spells (h : Spells ps cs) : charsOf? ps = some cs := by
  induction h with
  | nil => rfl
  | symbol _ ih => rw [charsOf?, ih, Option.map_some]
  | @unit c ps cs _ ih =>
    have hvalid : c.toNat < 0xD800 ∨ 0xDFFF < c.toNat ∧ c.toNat < 0x110000 := c.valid
    have hc : Char.ofNat c.toNat = c := c.ofNat_toNat
    rw [charsOf?.eq_def]
    split
    · simp_all
    · simp_all
    · simp_all
    · next hi lo rest he =>
      obtain ⟨hunit, rfl⟩ := List.cons.inj he
      obtain rfl := Piece.unit.inj hunit
      rw [if_neg (by omega), if_neg (by omega), ih, hc, Option.map_some]
    · next code rest _ he =>
      obtain ⟨hunit, rfl⟩ := List.cons.inj he
      obtain rfl := Piece.unit.inj hunit
      rw [if_neg (by omega), ih, hc, Option.map_some]
  | @pair c hi lo ps cs hhi hhi' hlo hlo' hcode _ ih =>
    rw [charsOf?, if_pos ⟨hhi, hhi'⟩, if_pos ⟨hlo, hlo'⟩, ih, ← hcode, Char.ofNat_toNat]
    rfl

theorem textOf?_of_spells {text : String} (h : Spells ps text.toList) :
    textOf? ps = some text := by
  rw [textOf?, charsOf?_of_spells h, Option.map_some, String.ofList_toList]

theorem pieces?_of_written {p : Piece} {front : List Char} {input : List Symbol}
    (h : p.Written front) (hrest : pieces? input = some (ps, rest)) :
    pieces? (front.map some ++ input) = some (p :: ps, rest) := by
  cases h with
  | plain hquote hslash hcode =>
    rw [List.map_cons, List.map_nil, List.singleton_append, pieces?.eq_def]
    split <;> grind
  | @short e c he =>
    have hu : e ≠ 'u' := by
      rintro rfl
      simp [shortEscape?] at he
    simp only [List.map_cons, List.map_nil, List.cons_append, List.nil_append]
    rw [pieces?.eq_def]
    split <;> grind
  | unit hcode =>
    simp only [List.map_cons, List.map_nil, List.cons_append, List.nil_append]
    rw [pieces?, hcode, hrest]

theorem pieces?_of_quoted (h : Quoted ps cs) (rest : List Symbol) :
    pieces? (cs.map some ++ some '"' :: rest) = some (ps, rest) := by
  induction h with
  | nil => rfl
  | cons hp _ ih =>
    rw [List.map_append, List.append_assoc]
    exact pieces?_of_written hp ih

def IsDigits (cs : List Char) : Prop :=
  cs ≠ [] ∧ ∀ c ∈ cs, isDigit (some c) = true

/-- A zero, or digits that do not begin with one. -/
def IsWhole (cs : List Char) : Prop :=
  cs = ['0'] ∨ IsDigits cs ∧ cs.head? ≠ some '0'

def IsPlaces (cs : List Char) : Prop :=
  cs = [] ∨ ∃ ds, cs = '.' :: ds ∧ IsDigits ds

def IsExponent (cs : List Char) : Prop :=
  cs = [] ∨ ∃ e sign ds, cs = e :: (sign ++ ds) ∧ (e = 'e' ∨ e = 'E') ∧
    (sign = [] ∨ sign = ['+'] ∨ sign = ['-']) ∧ IsDigits ds

def IsNumber (cs : List Char) : Prop :=
  ∃ sign whole places exponent, cs = sign ++ (whole ++ (places ++ exponent)) ∧
    (sign = [] ∨ sign = ['-']) ∧ IsWhole whole ∧ IsPlaces places ∧ IsExponent exponent

def isNumeric (s : Symbol) : Bool :=
  isDigit s || s == some '.' || s == some 'e' || s == some 'E'

def Follows (rest : List Symbol) : Prop :=
  ∀ s, rest.head? = some s → isNumeric s = false

theorem digits_append (h : ∀ c ∈ ds, isDigit (some c) = true)
    (hrest : ∀ s, rest.head? = some s → isDigit s = false) :
    digits (ds.map some ++ rest) = (ds, rest) := by
  have hstop : rest.takeWhile isDigit = [] ∧ rest.dropWhile isDigit = rest := by
    cases rest with
    | nil => exact ⟨rfl, rfl⟩
    | cons s rest => simp [hrest s rfl]
  have hall : ∀ s ∈ ds.map some, isDigit s = true := by simpa using h
  rw [digits, List.takeWhile_append_of_pos hall, List.dropWhile_append_of_pos hall, hstop.1,
    hstop.2, List.append_nil, List.filterMap_map]
  simp

theorem digits?_append (h : IsDigits ds) (hrest : ∀ s, rest.head? = some s → isDigit s = false) :
    digits? (ds.map some ++ rest) = some (ds, rest) := by
  rw [digits?, digits_append h.2 hrest]
  split
  · next he => exact absurd (Prod.mk.inj he).1 h.1
  · rfl

theorem Follows.isDigit (h : Follows rest) : ∀ s, rest.head? = some s → isDigit s = false := by
  intro s hs
  have hnumeric := h s hs
  simp only [isNumeric, Bool.or_eq_false_iff] at hnumeric
  exact hnumeric.1.1.1

theorem whole?_append (h : IsWhole cs) (hrest : ∀ s, rest.head? = some s → isDigit s = false) :
    whole? (cs.map some ++ rest) = some (cs, rest) := by
  rcases h with rfl | ⟨hdigits, hzero⟩
  · have hnext : isDigit rest.head?.join = false := by
      cases hs : rest.head? with
      | none => rfl
      | some s => exact hrest s hs
    simp [whole?, hnext]
  · rw [whole?.eq_def]
    split
    · next he =>
      obtain ⟨c, cs, rfl⟩ := List.exists_cons_of_ne_nil hdigits.1
      obtain ⟨hc, -⟩ := List.cons.inj he
      exact absurd (congrArg some (Option.some.inj hc)) hzero
    · exact digits?_append hdigits hrest

theorem places?_append (h : IsPlaces cs)
    (hrest : ∀ s, rest.head? = some s → isDigit s = false ∧ s ≠ some '.') :
    places? (cs.map some ++ rest) = some (cs, rest) := by
  have hdigit : ∀ s, rest.head? = some s → isDigit s = false := fun s hs => (hrest s hs).1
  rcases h with rfl | ⟨ds, rfl, hdigits⟩
  · rw [List.map_nil, List.nil_append, places?.eq_def]
    split
    · exact absurd rfl (hrest _ rfl).2
    · rfl
  · rw [List.map_cons, List.cons_append, places?, digits?_append hdigits hdigit]
    rfl

theorem exponent?_append (h : IsExponent cs) (hrest : Follows rest) :
    exponent? (cs.map some ++ rest) = some (cs, rest) := by
  rcases h with rfl | ⟨e, sign, ds, rfl, he, hsign, hdigits⟩
  · rw [List.map_nil, List.nil_append, exponent?.eq_def]
    split
    · next e rest' =>
      have hnot := hrest _ rfl
      rw [if_neg]
      rintro (rfl | rfl) <;> exact absurd hnot (by decide)
    · rfl
  · have hread := digits?_append hdigits hrest.isDigit
    have hnot (c : Char) (hc : isDigit (some c) = false) :
        ∀ rest', ds.map some ++ rest = some c :: rest' → False := by
      intro rest' heq
      obtain ⟨d, ds, rfl⟩ := List.exists_cons_of_ne_nil hdigits.1
      obtain ⟨hd, -⟩ := List.cons.inj heq
      have hdigit := hdigits.2 d List.mem_cons_self
      rw [hd, hc] at hdigit
      cases hdigit
    rcases hsign with rfl | rfl | rfl
    · rw [List.nil_append, List.map_cons, List.cons_append, exponent?, if_pos he, hread]
      · rfl
      · exact hnot '+' rfl
      · exact hnot '-' rfl
    · simp only [List.cons_append, List.nil_append, List.map_cons]
      rw [exponent?, if_pos he, hread]
      rfl
    · simp only [List.cons_append, List.nil_append, List.map_cons]
      rw [exponent?, if_pos he, hread]
      rfl

theorem head?_exponent (h : IsExponent cs) (hrest : Follows rest) :
    ∀ s, (cs.map some ++ rest).head? = some s → isDigit s = false ∧ s ≠ some '.' := by
  intro s hs
  rcases h with rfl | ⟨e, sign, ds, rfl, he, -⟩
  · have hnumeric := hrest s hs
    simp only [isNumeric, Bool.or_eq_false_iff, beq_eq_false_iff_ne] at hnumeric
    exact ⟨hnumeric.1.1.1, hnumeric.1.1.2⟩
  · obtain rfl : some e = s := by simpa using hs
    rcases he with rfl | rfl <;> exact ⟨by decide, by decide⟩

theorem unsigned?_append {whole places exponent : List Char} (hwhole : IsWhole whole)
    (hplaces : IsPlaces places) (hexponent : IsExponent exponent) (hrest : Follows rest) :
    unsigned? ((whole ++ (places ++ exponent)).map some ++ rest) =
      some (whole ++ (places ++ exponent), rest) := by
  have hafter := head?_exponent hexponent hrest
  have hpoint : ∀ s, (places.map some ++ (exponent.map some ++ rest)).head? = some s →
      isDigit s = false := by
    rcases hplaces with rfl | ⟨ds, rfl, -⟩
    · exact fun s hs => (hafter s hs).1
    · intro s hs
      obtain rfl : some '.' = s := by simpa using hs
      rfl
  rw [unsigned?]
  simp only [List.map_append, List.append_assoc]
  rw [whole?_append hwhole hpoint]
  simp [places?_append hplaces hafter, exponent?_append hexponent hrest]

theorem number?_append (h : IsNumber cs) (hrest : Follows rest) :
    number? (cs.map some ++ rest) = some (cs, rest) := by
  obtain ⟨sign, whole, places, exponent, rfl, hsign, hwhole, hplaces, hexponent⟩ := h
  have hread := unsigned?_append hwhole hplaces hexponent hrest
  rcases hsign with rfl | rfl
  · obtain ⟨d, whole', rfl, hd⟩ : ∃ d whole', whole = d :: whole' ∧ isDigit (some d) = true := by
      rcases hwhole with rfl | ⟨⟨hne, hall⟩, -⟩
      · exact ⟨'0', [], rfl, rfl⟩
      · obtain ⟨d, whole', rfl⟩ := List.exists_cons_of_ne_nil hne
        exact ⟨d, whole', rfl, hall d List.mem_cons_self⟩
    rw [List.nil_append, number?.eq_def]
    split
    · next heq =>
      obtain ⟨hminus, -⟩ := List.cons.inj heq
      rw [hminus] at hd
      exact absurd hd (by decide)
    · exact hread
  · rw [List.singleton_append, List.map_cons, List.cons_append, number?, hread]
    rfl

def AllBlank (cs : List Char) : Prop :=
  ∀ c ∈ cs, isBlank (some c) = true

/-- The name of a member with its quotes, and the blanks around it. -/
def Named (key : List Piece) (cs : List Char) : Prop :=
  ∃ before inner after, cs = before ++ '"' :: (inner ++ '"' :: after) ∧ AllBlank before ∧
    Quoted key inner ∧ AllBlank after

mutual

inductive Written : Json → List Char → Prop where

  | null : Written .null ['n', 'u', 'l', 'l']

  | yes : Written (.bool true) ['t', 'r', 'u', 'e']

  | no : Written (.bool false) ['f', 'a', 'l', 's', 'e']

  | number {cs : List Char} : IsNumber cs → Written (.number cs) cs

  | string {ps : List Piece} {cs : List Char} : Quoted ps cs →
      Written (.string ps) ('"' :: (cs ++ ['"']))

  | noItems {ws : List Char} : AllBlank ws → Written (.array []) ('[' :: (ws ++ [']']))

  | items {js : List Json} {cs : List Char} : ItemsWritten js cs →
      Written (.array js) ('[' :: (cs ++ [']']))

  | noMembers {ws : List Char} : AllBlank ws → Written (.object []) ('{' :: (ws ++ ['}']))

  | members {ms : List (List Piece × Json)} {cs : List Char} : MembersWritten ms cs →
      Written (.object ms) ('{' :: (cs ++ ['}']))

inductive Padded : Json → List Char → Prop where

  | mk {j : Json} {before cs after : List Char} : AllBlank before → Written j cs →
      AllBlank after → Padded j (before ++ (cs ++ after))

inductive ItemsWritten : List Json → List Char → Prop where

  | last {j : Json} {cs : List Char} : Padded j cs → ItemsWritten [j] cs

  | cons {j : Json} {js : List Json} {cs rest : List Char} : Padded j cs → ItemsWritten js rest →
      ItemsWritten (j :: js) (cs ++ ',' :: rest)

inductive MembersWritten : List (List Piece × Json) → List Char → Prop where

  | last {key : List Piece} {j : Json} {name cs : List Char} : Named key name → Padded j cs →
      MembersWritten [(key, j)] (name ++ ':' :: cs)

  | cons {key : List Piece} {j : Json} {ms : List (List Piece × Json)} {name cs rest : List Char} :
      Named key name → Padded j cs → MembersWritten ms rest →
      MembersWritten ((key, j) :: ms) (name ++ ':' :: (cs ++ ',' :: rest))

end

theorem toNat_of_isDigit (h : isDigit (some c) = true) : 0x30 ≤ c.toNat ∧ c.toNat ≤ 0x39 := by
  simpa [isDigit, Char.le_def, UInt32.le_iff_toNat_le] using h

theorem not_isBlank_of_isDigit (h : isDigit (some c) = true) : Text.isBlank c = false := by
  obtain ⟨hlo, hhi⟩ := toNat_of_isDigit h
  simp only [Text.isBlank, Bool.or_eq_false_iff, Bool.and_eq_false_iff, decide_eq_false_iff_not,
    beq_eq_false_iff_ne]
  omega

theorem isBlank_of_some (h : isBlank (some c) = true) : Text.isBlank c = true := by
  simp only [isBlank, Bool.or_eq_true, beq_iff_eq, Option.some.injEq] at h
  rcases h with ((rfl | rfl) | rfl) | rfl <;> decide

theorem IsDigits.exists_concat (h : IsDigits ds) :
    ∃ front d, ds = front ++ [d] ∧ Text.isBlank d = false := by
  obtain ⟨hne, hall⟩ := h
  exact ⟨ds.dropLast, ds.getLast hne, (List.dropLast_concat_getLast hne).symm,
    not_isBlank_of_isDigit (hall _ (List.getLast_mem hne))⟩

theorem IsNumber.exists_cons (h : IsNumber cs) :
    ∃ c rest, cs = c :: rest ∧ (c = '-' ∨ isDigit (some c) = true) := by
  obtain ⟨sign, whole, places, exponent, rfl, hsign, hwhole, -⟩ := h
  rcases hsign with rfl | rfl
  · rcases hwhole with rfl | ⟨⟨hne, hall⟩, -⟩
    · exact ⟨'0', _, rfl, .inr rfl⟩
    · obtain ⟨d, whole, rfl⟩ := List.exists_cons_of_ne_nil hne
      exact ⟨d, _, rfl, .inr (hall d List.mem_cons_self)⟩
  · exact ⟨'-', _, rfl, .inl rfl⟩

theorem IsNumber.length_pos (h : IsNumber cs) : 0 < cs.length := by
  obtain ⟨c, rest, rfl, -⟩ := h.exists_cons
  exact Nat.succ_pos _

theorem IsNumber.exists_concat (h : IsNumber cs) :
    ∃ front c, cs = front ++ [c] ∧ Text.isBlank c = false := by
  obtain ⟨sign, whole, places, exponent, rfl, -, hwhole, hplaces, hexponent⟩ := h
  rcases hexponent with rfl | ⟨e, sign', ds, rfl, -, -, hdigits⟩
  · rcases hplaces with rfl | ⟨ds, rfl, hdigits⟩
    · rcases hwhole with rfl | ⟨hdigits, -⟩
      · exact ⟨sign, '0', by simp, by decide⟩
      · obtain ⟨front, d, rfl, hd⟩ := hdigits.exists_concat
        exact ⟨sign ++ front, d, by simp, hd⟩
    · obtain ⟨front, d, rfl, hd⟩ := hdigits.exists_concat
      exact ⟨sign ++ (whole ++ '.' :: front), d, by simp, hd⟩
  · obtain ⟨front, d, rfl, hd⟩ := hdigits.exists_concat
    exact ⟨sign ++ (whole ++ (places ++ e :: (sign' ++ front))), d, by simp, hd⟩

theorem Written.exists_cons (h : Written j cs) :
    ∃ c rest, cs = c :: rest ∧ Text.isBlank c = false := by
  cases h with
  | number hnumber =>
    obtain ⟨c, rest, rfl, rfl | hc⟩ := hnumber.exists_cons
    · exact ⟨_, _, rfl, by decide⟩
    · exact ⟨c, rest, rfl, not_isBlank_of_isDigit hc⟩
  | _ => exact ⟨_, _, rfl, by decide⟩

theorem Written.exists_concat (h : Written j cs) :
    ∃ front c, cs = front ++ [c] ∧ Text.isBlank c = false := by
  cases h with
  | null => exact ⟨['n', 'u', 'l'], 'l', rfl, by decide⟩
  | yes => exact ⟨['t', 'r', 'u'], 'e', rfl, by decide⟩
  | no => exact ⟨['f', 'a', 'l', 's'], 'e', rfl, by decide⟩
  | number hnumber => exact hnumber.exists_concat
  | string => exact ⟨'"' :: _, '"', rfl, by decide⟩
  | noItems | items => exact ⟨'[' :: _, ']', rfl, by decide⟩
  | noMembers | members => exact ⟨'{' :: _, '}', rfl, by decide⟩

theorem Written.trim_eq (h : Written j cs) : Text.trim cs = cs := by
  have hfront : cs.dropWhile Text.isBlank = cs := by
    obtain ⟨c, rest, rfl, hc⟩ := h.exists_cons
    rw [List.dropWhile_cons, hc]
    rfl
  obtain ⟨front, c, rfl, hc⟩ := h.exists_concat
  rw [Text.trim, hfront, Text.trimEnd, List.reverse_append, List.reverse_singleton,
    List.singleton_append, List.dropWhile_cons, hc]
  simp

theorem skipBlanks_append (h : AllBlank ws) (rest : List Symbol) :
    skipBlanks (ws.map some ++ rest) = skipBlanks rest := by
  have hall : ∀ s ∈ ws.map some, isBlank s = true := by simpa [AllBlank] using h
  rw [skipBlanks, List.dropWhile_append_of_pos hall]
  rfl

theorem skipBlanks_cons (hc : isBlank (some c) = false) (rest : List Symbol) :
    skipBlanks (some c :: rest) = some c :: rest := by
  rw [skipBlanks, List.dropWhile_cons, hc]
  rfl

theorem skipBlanks_skipBlanks (input : List Symbol) :
    skipBlanks (skipBlanks input) = skipBlanks input := by
  induction input with
  | nil => rfl
  | cons s rest ih =>
    cases hs : isBlank s with
    | true => simpa [skipBlanks, hs] using ih
    | false => simp [skipBlanks, hs]

theorem value?_skipBlanks (n : Nat) (input : List Symbol) :
    value? n (skipBlanks input) = value? n input := by
  cases n with
  | zero => rfl
  | succ n => rw [value?, value?, skipBlanks_skipBlanks]

theorem items?_skipBlanks (n : Nat) (input : List Symbol) :
    items? n (skipBlanks input) = items? n input := by
  cases n with
  | zero => rfl
  | succ n => rw [items?, items?, value?_skipBlanks]

theorem members?_skipBlanks (n : Nat) (input : List Symbol) :
    members? n (skipBlanks input) = members? n input := by
  cases n with
  | zero => rfl
  | succ n => rw [members?, members?, skipBlanks_skipBlanks]

theorem follows_of_blank (h : AllBlank ws) (hrest : Follows rest) :
    Follows (ws.map some ++ rest) := by
  cases ws with
  | nil => exact hrest
  | cons c ws =>
    intro s hs
    obtain rfl : some c = s := by simpa using hs
    have hc := h c List.mem_cons_self
    simp only [isBlank, Bool.or_eq_true, beq_iff_eq, Option.some.injEq] at hc
    rcases hc with ((rfl | rfl) | rfl) | rfl <;> decide

theorem value?_number (h : IsNumber cs) (hrest : Follows rest) :
    value? (n + 1) (cs.map some ++ rest) = some (.number cs, rest) := by
  have hread := number?_append h hrest
  obtain ⟨c, cs, rfl, hc⟩ := h.exists_cons
  have hblank : Text.isBlank c = false := by
    rcases hc with rfl | hc
    · decide
    · exact not_isBlank_of_isDigit hc
  have hskip : isBlank (some c) = false := by
    by_contra hb
    rw [isBlank_of_some (by simpa using hb)] at hblank
    cases hblank
  have hother (d : Char) (hd : isDigit (some d) = false) (hminus : d ≠ '-') : c ≠ d := by
    rintro rfl
    rcases hc with rfl | hc
    · exact hminus rfl
    · rw [hd] at hc
      cases hc
  have hn := hother 'n' rfl (by decide)
  have ht := hother 't' rfl (by decide)
  have hf := hother 'f' rfl (by decide)
  have hquote := hother '"' rfl (by decide)
  have hbracket := hother '[' rfl (by decide)
  have hbrace := hother '{' rfl (by decide)
  rw [List.map_cons, List.cons_append] at hread ⊢
  rw [value?, skipBlanks_cons hskip]
  split
  all_goals first | (rw [hread]; rfl) | simp_all

theorem Written.length_pos (h : Written j cs) : 0 < cs.length := by
  obtain ⟨c, rest, rfl, -⟩ := h.exists_cons
  exact Nat.succ_pos _

theorem Padded.length_pos (h : Padded j cs) : 0 < cs.length := by
  cases h with
  | mk _ hwritten =>
    have hpos := hwritten.length_pos
    simp only [List.length_append]
    omega

theorem value?_blanks (h : AllBlank ws) (n : Nat) (input : List Symbol) :
    value? n (ws.map some ++ input) = value? n input := by
  rw [← value?_skipBlanks, skipBlanks_append h, value?_skipBlanks]

theorem value?_bracket (n : Nat) (rest : List Symbol) : value? n (some ']' :: rest) = none := by
  cases n with
  | zero => rfl
  | succ n =>
    simp [value?, skipBlanks, isBlank, number?, unsigned?, whole?, digits?, digits, isDigit]

theorem items?_bracket (n : Nat) (rest : List Symbol) : items? n (some ']' :: rest) = none := by
  cases n with
  | zero => rfl
  | succ n => rw [items?, value?_bracket]

theorem members?_brace (n : Nat) (rest : List Symbol) : members? n (some '}' :: rest) = none := by
  cases n with
  | zero => rfl
  | succ n => simp [members?, skipBlanks, isBlank]

/-- Reading a text in twice as many steps as it has symbols gives a value. -/
def Reads (j : Json) (cs : List Char) : Prop :=
  ∀ n rest, Follows rest → 2 * cs.length ≤ n + 1 →
    value? n (cs.map some ++ rest) = some (j, rest)

/-- The same with blanks around it, of which those after the value are left. -/
def ReadsPadded (j : Json) (cs : List Char) : Prop :=
  ∀ n rest, Follows rest → 2 * cs.length ≤ n + 1 →
    ∃ rest', value? n (cs.map some ++ rest) = some (j, rest') ∧ skipBlanks rest' = skipBlanks rest

def ReadsItems (js : List Json) (cs : List Char) : Prop :=
  ∀ n rest, 2 * cs.length ≤ n → items? n (cs.map some ++ some ']' :: rest) = some (js, rest)

def ReadsMembers (ms : List (List Piece × Json)) (cs : List Char) : Prop :=
  ∀ n rest, 2 * cs.length ≤ n → members? n (cs.map some ++ some '}' :: rest) = some (ms, rest)

theorem Reads.of_succ (hcs : 0 < cs.length)
    (h : ∀ n rest, Follows rest → 2 * cs.length ≤ n + 2 →
      value? (n + 1) (cs.map some ++ rest) = some (j, rest)) : Reads j cs := by
  intro n rest hrest hn
  cases n with
  | zero => omega
  | succ n => exact h n rest hrest hn

theorem reads_string {ps : List Piece} (h : Quoted ps cs) :
    Reads (.string ps) ('"' :: (cs ++ ['"'])) := by
  refine .of_succ (Nat.succ_pos _) fun n rest _ _ => ?_
  have hread := pieces?_of_quoted h rest
  simp [value?, skipBlanks, isBlank, hread]

theorem reads_noItems (h : AllBlank ws) : Reads (.array []) ('[' :: (ws ++ [']'])) := by
  refine .of_succ (Nat.succ_pos _) fun n rest _ _ => ?_
  have hskip := skipBlanks_append h (some ']' :: rest)
  rw [skipBlanks_cons rfl] at hskip
  simp [value?, skipBlanks_cons, isBlank, hskip]

theorem reads_noMembers (h : AllBlank ws) : Reads (.object []) ('{' :: (ws ++ ['}'])) := by
  refine .of_succ (Nat.succ_pos _) fun n rest _ _ => ?_
  have hskip := skipBlanks_append h (some '}' :: rest)
  rw [skipBlanks_cons rfl] at hskip
  simp [value?, skipBlanks_cons, isBlank, hskip]

theorem ReadsItems.reads {js : List Json} (h : ReadsItems js cs) :
    Reads (.array js) ('[' :: (cs ++ [']'])) := by
  refine .of_succ (Nat.succ_pos _) fun n rest _ hn => ?_
  simp only [List.length_cons, List.length_append, List.length_nil] at hn
  have hread := h n rest (by omega)
  rw [← items?_skipBlanks] at hread
  rw [List.map_cons, List.cons_append, value?, skipBlanks_cons rfl]
  simp only [List.map_append, List.map_cons, List.map_nil, List.append_assoc, List.cons_append,
    List.nil_append]
  split
  · next heq =>
    rw [heq, items?_bracket] at hread
    cases hread
  · rw [hread]
    rfl

theorem ReadsMembers.reads {ms : List (List Piece × Json)} (h : ReadsMembers ms cs) :
    Reads (.object ms) ('{' :: (cs ++ ['}'])) := by
  refine .of_succ (Nat.succ_pos _) fun n rest _ hn => ?_
  simp only [List.length_cons, List.length_append, List.length_nil] at hn
  have hread := h n rest (by omega)
  rw [← members?_skipBlanks] at hread
  rw [List.map_cons, List.cons_append, value?, skipBlanks_cons rfl]
  simp only [List.map_append, List.map_cons, List.map_nil, List.append_assoc, List.cons_append,
    List.nil_append]
  split
  · next heq =>
    rw [heq, members?_brace] at hread
    cases hread
  · rw [hread]
    rfl

theorem Reads.padded {before after : List Char} (h : Reads j cs) (hbefore : AllBlank before)
    (hafter : AllBlank after) : ReadsPadded j (before ++ (cs ++ after)) := by
  intro n rest hrest hn
  simp only [List.length_append] at hn
  refine ⟨after.map some ++ rest, ?_, skipBlanks_append hafter rest⟩
  simp only [List.map_append, List.append_assoc]
  rw [value?_blanks hbefore]
  exact h n _ (follows_of_blank hafter hrest) (by omega)

theorem follows_cons (hc : isNumeric (some c) = false) (rest : List Symbol) :
    Follows (some c :: rest) := by
  rintro _ ⟨⟩
  exact hc

theorem ReadsPadded.last (h : ReadsPadded j cs) (hcs : 0 < cs.length) : ReadsItems [j] cs := by
  intro n rest hn
  cases n with
  | zero => omega
  | succ n =>
    obtain ⟨rest', hread, hskip⟩ := h n _ (follows_cons (c := ']') rfl rest) (by omega)
    rw [skipBlanks_cons rfl] at hskip
    simp [items?, hread, hskip]

theorem ReadsPadded.cons {js : List Json} {ds : List Char} (h : ReadsPadded j cs)
    (hcs : 0 < cs.length) (hs : ReadsItems js ds) : ReadsItems (j :: js) (cs ++ ',' :: ds) := by
  intro n rest hn
  simp only [List.length_append, List.length_cons] at hn
  cases n with
  | zero => omega
  | succ n =>
    obtain ⟨rest', hread, hskip⟩ :=
      h n _ (follows_cons (c := ',') rfl (ds.map some ++ some ']' :: rest)) (by omega)
    have hrest := hs n rest (by omega)
    rw [skipBlanks_cons rfl] at hskip
    simp [items?, hread, hskip, hrest]

/-- Reads the value of a member that has this name, and the members after it. -/
def membersAt? (n : Nat) (key : List Piece) (input : List Symbol) :
    Option (List (List Piece × Json) × List Symbol) :=
  match value? n input with
  | none => none
  | some (j, rest) =>
    match skipBlanks rest with
    | some ',' :: rest => (members? n rest).map fun (ms, after) => ((key, j) :: ms, after)
    | some '}' :: rest => some ([(key, j)], rest)
    | _ => none

theorem members?_named {key : List Piece} {name : List Char} {input : List Symbol}
    (h : Named key name) :
    members? (n + 1) (name.map some ++ some ':' :: input) = membersAt? n key input := by
  obtain ⟨before, inner, after, rfl, hbefore, hquoted, hafter⟩ := h
  have hname := pieces?_of_quoted hquoted (after.map some ++ some ':' :: input)
  have hskip := skipBlanks_append hafter (some ':' :: input)
  rw [skipBlanks_cons rfl] at hskip
  simp only [List.map_append, List.map_cons, List.append_assoc, List.cons_append]
  rw [members?, skipBlanks_append hbefore, skipBlanks_cons rfl]
  simp only [hname, hskip]
  rfl

theorem ReadsPadded.lastMember {key : List Piece} {name : List Char} (h : ReadsPadded j cs)
    (hname : Named key name) : ReadsMembers [(key, j)] (name ++ ':' :: cs) := by
  intro n rest hn
  simp only [List.length_append, List.length_cons] at hn
  cases n with
  | zero => omega
  | succ n =>
    obtain ⟨rest', hread, hskip⟩ := h n _ (follows_cons (c := '}') rfl rest) (by omega)
    rw [skipBlanks_cons rfl] at hskip
    simp [members?_named hname, membersAt?, hread, hskip]

theorem ReadsPadded.consMember {key : List Piece} {name ds : List Char}
    {ms : List (List Piece × Json)} (h : ReadsPadded j cs) (hname : Named key name)
    (hs : ReadsMembers ms ds) :
    ReadsMembers ((key, j) :: ms) (name ++ ':' :: (cs ++ ',' :: ds)) := by
  intro n rest hn
  simp only [List.length_append, List.length_cons] at hn
  cases n with
  | zero => omega
  | succ n =>
    obtain ⟨rest', hread, hskip⟩ :=
      h n _ (follows_cons (c := ',') rfl (ds.map some ++ some '}' :: rest)) (by omega)
    have hrest := hs n rest (by omega)
    rw [skipBlanks_cons rfl] at hskip
    simp [members?_named hname, membersAt?, hread, hskip, hrest]

mutual

theorem Written.reads : ∀ {j cs}, Written j cs → Reads j cs
  | _, _, .null | _, _, .yes | _, _, .no => .of_succ (Nat.succ_pos _) fun _ _ _ _ => rfl
  | _, _, .number h => .of_succ h.length_pos fun _ _ hrest _ => value?_number h hrest
  | _, _, .string h => reads_string h
  | _, _, .noItems h => reads_noItems h
  | _, _, .items h => h.reads.reads
  | _, _, .noMembers h => reads_noMembers h
  | _, _, .members h => h.reads.reads

theorem Padded.reads : ∀ {j cs}, Padded j cs → ReadsPadded j cs
  | _, _, .mk hbefore h hafter => h.reads.padded hbefore hafter

theorem ItemsWritten.reads : ∀ {js cs}, ItemsWritten js cs → ReadsItems js cs
  | _, _, .last h => h.reads.last h.length_pos
  | _, _, .cons h hs => h.reads.cons h.length_pos hs.reads

theorem MembersWritten.reads : ∀ {ms cs}, MembersWritten ms cs → ReadsMembers ms cs
  | _, _, .last hname h => h.reads.lastMember hname
  | _, _, .cons hname h hs => h.reads.consMember hname hs.reads

end

/-- However a value is written, it is read. -/
theorem ofSymbols?_of_padded (h : Padded j cs) : ofSymbols? (cs.map some) = some j := by
  obtain ⟨rest, hread, hskip⟩ := h.reads (2 * (cs.map some).length + 2) [] (by simp [Follows]) (by
    rw [List.length_map]
    omega)
  rw [List.append_nil] at hread
  rw [ofSymbols?, hread]
  simp only [hskip]
  rfl

theorem ofSymbols?_of_written (h : Written j cs) : ofSymbols? (cs.map some) = some j := by
  have hpadded : Padded j ([] ++ (cs ++ [])) := .mk (by simp [AllBlank]) h (by simp [AllBlank])
  simpa using ofSymbols?_of_padded hpadded

end Parley.Json
