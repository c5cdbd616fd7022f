import Parley.Text.Utf8
import Mathlib.Tactic.Common

/-! # Reading UTF-8 in pieces

Reading bytes and then more bytes is reading all of them: what the first reading leaves unfinished
is all that the second needs to know. The encoding of a text reads as that text, and so does a text
whose last character is cut short, up to that character.
-/

namespace Parley.Utf8

variable {seen a b p q bs : List UInt8} {cs ds es : List Char} {c : Char}

/-- The bytes begin a character and do not complete one. -/
def Unfinished (bs : List UInt8) : Prop :=
  read [] bs = .text [] bs

/-- The bytes of a text, the last character of which may be cut short. -/
def IsOpenText (bs : List UInt8) : Prop :=
  ∃ cs tail c, bs = encode cs ++ tail ∧ tail <+: String.utf8EncodeChar c ∧
    tail ≠ String.utf8EncodeChar c

theorem unfinished_nil : Unfinished [] :=
  rfl

theorem Reading.cons_eq_text_iff {r : Reading} {n : Nat} :
    r.cons c n = .text es q ↔ ∃ cs, r = .text cs q ∧ es = c :: cs := by
  cases r with
  | text cs p =>
    simp only [Reading.cons, Reading.text.injEq]
    constructor
    · rintro ⟨rfl, rfl⟩
      exact ⟨cs, ⟨rfl, rfl⟩, rfl⟩
    · rintro ⟨_, ⟨rfl, rfl⟩, rfl⟩
      exact ⟨rfl, rfl⟩
  | malformed => simp [Reading.cons]

/-- A text that is read stays readable wherever its bytes are cut. -/
theorem read_append_iff :
    read seen (a ++ b) = .text es q ↔
      ∃ cs p ds, read seen a = .text cs p ∧ read p b = .text ds q ∧ es = cs ++ ds := by
  induction a generalizing seen es with
  | nil =>
    rw [List.nil_append, read]
    constructor
    · intro h
      exact ⟨[], seen, es, rfl, h, rfl⟩
    · rintro ⟨cs, p, ds, ha, hb, rfl⟩
      obtain ⟨rfl, rfl⟩ := Reading.text.inj ha
      exact hb
  | cons x a ih =>
    rw [List.cons_append, read, read]
    cases take seen x with
    | char c =>
      simp only [Reading.cons_eq_text_iff, ih]
      constructor
      · rintro ⟨_, ⟨cs, p, ds, ha, hb, rfl⟩, rfl⟩
        exact ⟨c :: cs, p, ds, ⟨cs, ha, rfl⟩, hb, rfl⟩
      · rintro ⟨_, p, ds, ⟨cs, ha, rfl⟩, hb, rfl⟩
        exact ⟨cs ++ ds, ⟨cs, p, ds, ha, hb, rfl⟩, rfl⟩
    | more => exact ih
    | stray => simp

theorem eq_append_of_read_nil (h : read seen bs = .text [] p) : p = seen ++ bs := by
  induction bs generalizing seen with
  | nil =>
    rw [read] at h
    simpa using (Reading.text.inj h).2.symm
  | cons x bs ih =>
    rw [read] at h
    split at h
    · obtain ⟨_, -, he⟩ := Reading.cons_eq_text_iff.mp h
      cases he
    · simpa using ih h
    · cases h

theorem Unfinished.left (h : Unfinished (a ++ b)) : Unfinished a := by
  obtain ⟨cs, p, ds, ha, -, he⟩ := read_append_iff.mp h
  obtain ⟨rfl, -⟩ := List.append_eq_nil_iff.mp he.symm
  rw [Unfinished, ha, eq_append_of_read_nil ha, List.nil_append]

theorem Unfinished.read_append (h : Unfinished p) : read [] (p ++ b) = .text es q ↔
    read p b = .text es q := by
  rw [read_append_iff]
  constructor
  · rintro ⟨cs, p', ds, hp, hb, rfl⟩
    obtain ⟨rfl, rfl⟩ := Reading.text.inj (h.symm.trans hp)
    exact hb
  · intro hb
    exact ⟨[], p, es, h, hb, rfl⟩

theorem unfinished_of_read (hs : Unfinished seen) (h : read seen bs = .text cs p) :
    Unfinished p := by
  induction bs generalizing seen cs with
  | nil =>
    rw [read] at h
    exact (Reading.text.inj h).2 ▸ hs
  | cons x bs ih =>
    rw [read] at h
    split at h
    · obtain ⟨ds, h, -⟩ := Reading.cons_eq_text_iff.mp h
      exact ih unfinished_nil h
    · next hm =>
      have hx : Unfinished (seen ++ [x]) := by
        have hread : read seen [x] = .text [] (seen ++ [x]) := by
          rw [read, hm]
          rfl
        exact hs.read_append.mpr hread
      exact ih hx h
    · cases h

theorem toNat_ofNat_of_lt {n : Nat} (h : n < 0x100) : (UInt8.ofNat n).toNat = n := by
  rw [UInt8.toNat_ofNat']
  omega

theorem isContinuation_iff {x : UInt8} :
    isContinuation x = true ↔ 0x80 ≤ x.toNat ∧ x.toNat ≤ 0xBF := by
  simp [isContinuation, UInt8.le_iff_toNat_le]

theorem isSecond_iff {x y : UInt8} :
    isSecond x y = true ↔ 0x80 ≤ y.toNat ∧ y.toNat ≤ 0xBF ∧
      (x.toNat = 0xE0 → 0xA0 ≤ y.toNat) ∧ (x.toNat = 0xED → y.toNat ≤ 0x9F) ∧
      (x.toNat = 0xF0 → 0x90 ≤ y.toNat) ∧ (x.toNat = 0xF4 → y.toNat ≤ 0x8F) := by
  have heq (z : UInt8) : x = z ↔ x.toNat = z.toNat := UInt8.toNat_inj.symm
  simp only [isSecond, isContinuation, UInt8.le_iff_toNat_le, heq, UInt8.reduceToNat]
  grind

theorem isContinuation_ofNat (n : Nat) :
    isContinuation (UInt8.ofNat (n % 0x40 + 0x80)) = true := by
  rw [isContinuation_iff, toNat_ofNat_of_lt (by omega)]
  omega

theorem low_ofNat (n : Nat) : low (UInt8.ofNat (n % 0x40 + 0x80)) = n % 0x40 := by
  rw [low, toNat_ofNat_of_lt (by omega)]
  omega

variable {x y z : UInt8}

theorem unfinished_one (hx : 0xC2 ≤ x.toNat) (hx' : x.toNat ≤ 0xF4) : Unfinished [x] := by
  have hmore : take [] x = .more := by
    have hn : ¬ x < 0x80 := by
      simp only [UInt8.lt_iff_toNat_lt, UInt8.reduceToNat]
      omega
    simp [take, hn, UInt8.le_iff_toNat_le, hx, hx']
  rw [Unfinished, read, hmore]
  rfl

theorem unfinished_two (hx : 0xE0 ≤ x.toNat) (hx' : x.toNat ≤ 0xF4) (hy : isSecond x y = true) :
    Unfinished [x, y] := by
  have hmore : take [x] y = .more := by
    have hn : ¬ x ≤ 0xDF := by
      simp only [UInt8.le_iff_toNat_le, UInt8.reduceToNat]
      omega
    simp [take, hn, hy]
  have hone : Unfinished [x] := unfinished_one (by omega) hx'
  refine (hone.read_append (b := [y])).mpr ?_
  rw [read, hmore]
  rfl

theorem unfinished_three (hx : 0xF0 ≤ x.toNat) (hx' : x.toNat ≤ 0xF4) (hy : isSecond x y = true)
    (hz : isContinuation z = true) : Unfinished [x, y, z] := by
  have hmore : take [x, y] z = .more := by
    have hn : ¬ x ≤ 0xEF := by
      simp only [UInt8.le_iff_toNat_le, UInt8.reduceToNat]
      omega
    simp [take, hn, hz]
  have htwo : Unfinished [x, y] := unfinished_two (by omega) hx' hy
  refine (htwo.read_append (b := [z])).mpr ?_
  rw [read, hmore]
  rfl

/-- The last byte of a character completes it, and the bytes before it do not. -/
theorem utf8EncodeChar_eq (c : Char) : ∃ front last, String.utf8EncodeChar c = front ++ [last] ∧
    Unfinished front ∧ take front last = .char c := by
  have hv : c.val.toNat < 0xD800 ∨ 0xDFFF < c.val.toNat ∧ c.val.toNat < 0x110000 := c.valid
  have hc : Char.ofNat c.val.toNat = c := c.ofNat_toNat
  rw [String.utf8EncodeChar]
  generalize c.val.toNat = v at hv hc
  subst hc
  -- the four lengths of a character
  split
  · have hx : (UInt8.ofNat v).toNat = v := toNat_ofNat_of_lt (by omega)
    refine ⟨[], _, rfl, unfinished_nil, ?_⟩
    have hlt : UInt8.ofNat v < 0x80 := by
      simp only [UInt8.lt_iff_toNat_lt, hx, UInt8.reduceToNat]
      omega
    simp only [take, if_pos hlt, hx]
  split
  · have hx : (UInt8.ofNat (v / 0x40 % 0x20 + 0xC0)).toNat = v / 0x40 % 0x20 + 0xC0 :=
      toNat_ofNat_of_lt (by omega)
    refine ⟨[_], _, rfl, unfinished_one (by omega) (by omega), ?_⟩
    have hle : UInt8.ofNat (v / 0x40 % 0x20 + 0xC0) ≤ 0xDF := by
      simp only [UInt8.le_iff_toNat_le, hx, UInt8.reduceToNat]
      omega
    simp only [take, if_pos hle, isContinuation_ofNat, if_true, low_ofNat, hx]
    congr 2
    omega
  split
  · have hx : (UInt8.ofNat (v / 0x1000 % 0x10 + 0xE0)).toNat = v / 0x1000 % 0x10 + 0xE0 :=
      toNat_ofNat_of_lt (by omega)
    have hy : (UInt8.ofNat (v / 0x40 % 0x40 + 0x80)).toNat = v / 0x40 % 0x40 + 0x80 :=
      toNat_ofNat_of_lt (by omega)
    have hxy : isSecond (UInt8.ofNat (v / 0x1000 % 0x10 + 0xE0))
        (UInt8.ofNat (v / 0x40 % 0x40 + 0x80)) = true := by
      rw [isSecond_iff, hx, hy]
      omega
    refine ⟨[_, _], _, rfl, unfinished_two (by omega) (by omega) hxy, ?_⟩
    have hle : UInt8.ofNat (v / 0x1000 % 0x10 + 0xE0) ≤ 0xEF := by
      simp only [UInt8.le_iff_toNat_le, hx, UInt8.reduceToNat]
      omega
    simp only [take, if_pos hle, isContinuation_ofNat, if_true, low_ofNat, hx]
    congr 2
    omega
  · have hx : (UInt8.ofNat (v / 0x40000 % 0x08 + 0xF0)).toNat = v / 0x40000 % 0x08 + 0xF0 :=
      toNat_ofNat_of_lt (by omega)
    have hy : (UInt8.ofNat (v / 0x1000 % 0x40 + 0x80)).toNat = v / 0x1000 % 0x40 + 0x80 :=
      toNat_ofNat_of_lt (by omega)
    have hxy : isSecond (UInt8.ofNat (v / 0x40000 % 0x08 + 0xF0))
        (UInt8.ofNat (v / 0x1000 % 0x40 + 0x80)) = true := by
      rw [isSecond_iff, hx, hy]
      omega
    refine ⟨[_, _, _], _, rfl,
      unfinished_three (by omega) (by omega) hxy (isContinuation_ofNat _), ?_⟩
    simp only [take, isContinuation_ofNat, if_true, low_ofNat, hx]
    congr 2
    omega

theorem read_utf8EncodeChar (c : Char) : read [] (String.utf8EncodeChar c) = .text [c] [] := by
  obtain ⟨front, last, he, hfront, hlast⟩ := utf8EncodeChar_eq c
  rw [he, hfront.read_append, read, hlast]
  rfl

theorem unfinished_of_prefix (h : bs <+: String.utf8EncodeChar c)
    (hne : bs ≠ String.utf8EncodeChar c) : Unfinished bs := by
  obtain ⟨front, last, he, hfront, -⟩ := utf8EncodeChar_eq c
  rw [he] at h hne
  obtain ⟨rest, hrest⟩ := (List.prefix_concat_iff.mp h).resolve_left hne
  rw [← hrest] at hfront
  exact hfront.left

theorem read_encode (cs : List Char) (h : Unfinished p) :
    read [] (encode cs ++ p) = .text cs p := by
  induction cs with
  | nil => exact h
  | cons c cs ih =>
    have hsplit : encode (c :: cs) ++ p = String.utf8EncodeChar c ++ (encode cs ++ p) := by
      simp [encode]
    rw [hsplit, read_append_iff]
    exact ⟨[c], [], cs, read_utf8EncodeChar c, ih, rfl⟩

theorem read_encode_self (cs : List Char) : read [] (encode cs) = .text cs [] := by
  have hread := read_encode cs unfinished_nil
  rwa [List.append_nil] at hread

theorem symbols_append (h : read seen bs = .text cs p) (rest : List UInt8) :
    symbols seen (bs ++ rest) = cs.map some ++ symbols p rest := by
  induction bs generalizing seen cs with
  | nil =>
    obtain ⟨rfl, rfl⟩ := Reading.text.inj h
    rfl
  | cons x bs ih =>
    rw [read] at h
    rw [List.cons_append, symbols]
    split at h
    · obtain ⟨ds, hds, rfl⟩ := Reading.cons_eq_text_iff.mp h
      rw [ih hds]
      rfl
    · exact ih h
    · cases h

theorem symbols_encode (cs : List Char) : symbols [] (encode cs) = cs.map some := by
  simpa [symbols] using symbols_append (read_encode_self cs) []

theorem eq_singleton_of_mem (hx : x ∈ String.utf8EncodeChar c) (hlt : x.toNat < 0x80) :
    c = Char.ofNat x.toNat ∧ String.utf8EncodeChar c = [x] := by
  have hc : Char.ofNat c.val.toNat = c := c.ofNat_toNat
  by_cases hv : c.val.toNat ≤ 0x7F
  · have he : String.utf8EncodeChar c = [UInt8.ofNat c.val.toNat] := by
      rw [String.utf8EncodeChar]
      exact if_pos hv
    rw [he] at hx ⊢
    obtain rfl := List.mem_singleton.mp hx
    rw [toNat_ofNat_of_lt (by omega), hc]
    exact ⟨rfl, rfl⟩
  · exfalso
    have hne (n : Nat) (hn : 0x80 ≤ n) (hn' : n < 0x100) : x ≠ UInt8.ofNat n := by
      rintro rfl
      rw [toNat_ofNat_of_lt hn'] at hlt
      omega
    rw [String.utf8EncodeChar] at hx
    simp only [if_neg hv] at hx
    split at hx
    · simp only [List.mem_cons, List.not_mem_nil, or_false] at hx
      rcases hx with hx | hx <;> exact hne _ (by omega) (by omega) hx
    split at hx
    · simp only [List.mem_cons, List.not_mem_nil, or_false] at hx
      rcases hx with hx | hx | hx <;> exact hne _ (by omega) (by omega) hx
    · simp only [List.mem_cons, List.not_mem_nil, or_false] at hx
      rcases hx with hx | hx | hx | hx <;> exact hne _ (by omega) (by omega) hx

theorem le_toNat_of_mem_prefix (h : bs <+: String.utf8EncodeChar c)
    (hne : bs ≠ String.utf8EncodeChar c) (hx : x ∈ bs) : 0x80 ≤ x.toNat := by
  by_contra hlt
  obtain ⟨-, he⟩ := eq_singleton_of_mem (h.subset hx) (by omega)
  rw [he] at h hne
  rcases List.prefix_cons_iff.mp h with rfl | ⟨rest, rfl, hrest⟩
  · cases hx
  · rw [List.prefix_nil.mp hrest] at hne
    exact hne rfl

end Parley.Utf8
