import Parley.Text.Lowercase
import Mathlib.Tactic.Common

/-! # Small letters that are ASCII

Two foldings take a text to small letters: one for ASCII letters only, and the full one of Unicode.
They may differ on a text whose full folding is ASCII, since the Kelvin sign folds into a `k`. It is
the only character beyond ASCII that folds into an ASCII letter by itself, so that words without a
`k` are recognized alike by both.
-/

namespace Parley.Text

variable {c d : Char} {cs ds before : List Char}

/-- An ASCII character that no character beyond ASCII folds into. -/
structure FoldsFromAscii (d : Char) : Prop where
  isAscii : d.toNat < 0x80
  ne_kelvin : d ≠ 'k'
  ne_nul : d ≠ '\x00'

instance : Decidable (FoldsFromAscii d) :=
  decidable_of_iff (d.toNat < 0x80 ∧ d ≠ 'k' ∧ d ≠ '\x00')
    ⟨fun ⟨h, hk, hn⟩ => ⟨h, hk, hn⟩, fun ⟨h, hk, hn⟩ => ⟨h, hk, hn⟩⟩

theorem asciiSmall_of_not_ascii (h : 0x80 ≤ c.toNat) : asciiSmall c = c := by
  rw [asciiSmall, if_neg]
  simp only [Bool.and_eq_true, decide_eq_true_eq, not_and]
  omega

theorem toLower_of_not_ascii (h : 0x80 ≤ c.toNat) : c.toLower = c := by
  refine dif_neg ?_
  rintro ⟨-, hle⟩
  have hle' : c.toNat ≤ 'Z'.toNat := UInt32.le_iff_toNat_le.mp hle
  have hz : 'Z'.toNat = 0x5A := rfl
  omega

theorem asciiSmall_eq_toLower (c : Char) : asciiSmall c = c.toLower := by
  rcases Nat.lt_or_ge c.toNat 0x80 with h | h
  · have hall : ∀ n < 0x80, asciiSmall (Char.ofNat n) = (Char.ofNat n).toLower := by
      decide +kernel
    simpa using hall c.toNat h
  · rw [asciiSmall_of_not_ascii h, toLower_of_not_ascii h]

theorem toNat_ofNat_or (n : Nat) : (Char.ofNat n).toNat = n ∨ Char.ofNat n = '\x00' := by
  by_cases h : n.isValidChar
  · have he : Char.ofNat n = Char.ofNatAux n h := dif_pos h
    rw [he]
    exact .inl rfl
  · exact .inr (dif_neg h)

theorem smallOf_of_ascii (h : c.toNat < 0x80) : smallOf c = asciiSmall c := by
  simp only [smallOf, if_pos h, asciiSmall]

/-- Of the capital letters beyond ASCII only the Kelvin sign has a small form in ASCII. -/
theorem kelvin_or_le_shift : ∀ r ∈ capitalRuns,
    r.first = 0x212A ∧ r.last = 0x212A ∧ r.shift = -8383 ∨ 0x80 ≤ (r.first : Int) + r.shift := by
  decide +kernel

theorem smallOf_of_not_ascii (h : 0x80 ≤ c.toNat) (hd : FoldsFromAscii d) : smallOf c ≠ d := by
  have hne (n : Nat) (hn : n = 'k'.toNat ∨ 0x80 ≤ n) : Char.ofNat n ≠ d := by
    rintro rfl
    rcases toNat_ofNat_or n with he | he
    · rcases hn with rfl | hn
      · exact hd.ne_kelvin rfl
      · exact absurd hd.isAscii (by omega)
    · exact hd.ne_nul he
  simp only [smallOf, if_neg (Nat.not_lt.mpr h)]
  split
  · next r hr =>
    apply hne
    have hrange := List.find?_some hr
    simp only [Bool.and_eq_true, decide_eq_true_eq] at hrange
    rcases kelvin_or_le_shift r (List.mem_of_find?_eq_some hr) with ⟨hfirst, hlast, hshift⟩ | hle
    · left
      have hk : 'k'.toNat = 0x6B := rfl
      omega
    · omega
  · rintro rfl
    exact absurd hd.isAscii (Nat.not_lt.mpr h)

theorem exists_not_foldsFromAscii (hc : 0x80 ≤ c.toNat) (before cs : List Char) :
    ∃ d ∈ smallAfter before (c :: cs), ¬ FoldsFromAscii d := by
  have hbeyond {d : Char} (hd : 0x80 ≤ d.toNat) : ¬ FoldsFromAscii d :=
    fun h => absurd h.isAscii (Nat.not_lt.mpr hd)
  simp only [smallAfter]
  split
  · split
    · exact ⟨'ς', by simp, hbeyond (by decide)⟩
    · exact ⟨'σ', by simp, hbeyond (by decide)⟩
  split
  · exact ⟨'\u0307', by simp, hbeyond (by decide)⟩
  · exact ⟨smallOf c, by simp, fun h => smallOf_of_not_ascii hc h rfl⟩

/-- The full folding of a text is a word of ASCII without a `k` exactly if the folding of its ASCII
letters is that word. -/
theorem smallAfter_eq_iff (hds : ∀ d ∈ ds, FoldsFromAscii d) :
    smallAfter before cs = ds ↔ cs.map Char.toLower = ds := by
  induction cs generalizing before ds with
  | nil => rfl
  | cons c cs ih =>
    rcases Nat.lt_or_ge c.toNat 0x80 with hc | hc
    · have hsigma : (c == 'Σ') = false := beq_false_of_ne (by rintro rfl; revert hc; decide)
      have hdot : (c == 'İ') = false := beq_false_of_ne (by rintro rfl; revert hc; decide)
      simp only [smallAfter, hsigma, hdot, smallOf_of_ascii hc, asciiSmall_eq_toLower,
        Bool.false_eq_true, if_false, List.singleton_append, List.map_cons]
      cases ds with
      | nil => simp
      | cons d ds =>
        rw [List.cons.injEq, List.cons.injEq, ih fun d hd => hds d (List.mem_cons_of_mem _ hd)]
    · constructor
      · rintro rfl
        obtain ⟨d, hd, hnot⟩ := exists_not_foldsFromAscii hc before cs
        exact absurd (hds d hd) hnot
      · rintro rfl
        have hfolds : FoldsFromAscii c.toLower := hds _ List.mem_cons_self
        rw [toLower_of_not_ascii hc] at hfolds
        exact absurd hfolds.isAscii (Nat.not_lt.mpr hc)

theorem lowercase_eq_iff (hds : ∀ d ∈ ds, FoldsFromAscii d) :
    lowercase cs = ds ↔ cs.map Char.toLower = ds :=
  smallAfter_eq_iff hds

end Parley.Text
