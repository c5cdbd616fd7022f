import Parley.Proofs.Text.Utf8
import Mathlib.Data.List.Induction

/-! # Bytes that more bytes complete

Reading fails at the first byte after which no text is possible any more, and not before. What has
been read is spelled by the text that it gave and the bytes that are left over, and these begin a
character.
-/

namespace Parley.Utf8

variable {seen a b p q bs : List UInt8} {cs ds : List Char} {c : Char} {x y z : UInt8}

/-- The bytes that can begin a character, short of the whole of it. -/
inductive Begins : List UInt8 → Prop where

  | none : Begins []

  | one {x : UInt8} : 0xC2 ≤ x.toNat → x.toNat ≤ 0xF4 → Begins [x]

  | two {x y : UInt8} : 0xE0 ≤ x.toNat → x.toNat ≤ 0xF4 → isSecond x y = true → Begins [x, y]

  | three {x y z : UInt8} : 0xF0 ≤ x.toNat → x.toNat ≤ 0xF4 → isSecond x y = true →
      isContinuation z = true → Begins [x, y, z]

theorem take_nil_more (h : take [] x = .more) : 0xC2 ≤ x.toNat ∧ x.toNat ≤ 0xF4 := by
  simp only [take] at h
  split at h
  · cases h
  split at h
  · next hx => simpa [UInt8.le_iff_toNat_le] using hx
  · cases h

theorem take_one_more (h : take [x] y = .more) : 0xE0 ≤ x.toNat ∧ isSecond x y = true := by
  simp only [take] at h
  split at h
  · split at h <;> cases h
  · next hx =>
    split at h
    · next hy =>
      simp only [UInt8.le_iff_toNat_le, UInt8.reduceToNat] at hx
      exact ⟨by omega, hy⟩
    · cases h

theorem take_two_more (h : take [x, y] z = .more) : 0xF0 ≤ x.toNat ∧ isContinuation z = true := by
  simp only [take] at h
  split at h
  · next hz =>
    split at h
    · cases h
    · next hx =>
      simp only [UInt8.le_iff_toNat_le, UInt8.reduceToNat] at hx
      exact ⟨by omega, hz⟩
  · cases h

theorem Unfinished.take_eq (h : Unfinished (seen ++ [x])) : take seen x = .more := by
  have hread := h.left.read_append.mp h
  rw [read] at hread
  cases htake : take seen x with
  | char c =>
    rw [htake] at hread
    cases hread
  | more => rfl
  | stray =>
    rw [htake] at hread
    cases hread

theorem Unfinished.begins (h : Unfinished p) : Begins p := by
  induction p using List.reverseRecOn with
  | nil => exact .none
  | append_singleton seen x ih =>
    have htake := h.take_eq
    cases ih h.left with
    | none =>
      obtain ⟨hx, hx'⟩ := take_nil_more htake
      exact .one hx hx'
    | one _ hx' =>
      obtain ⟨hx, hy⟩ := take_one_more htake
      exact .two hx hx' hy
    | two _ hx' hy =>
      obtain ⟨hx, hz⟩ := take_two_more htake
      exact .three hx hx' hy hz
    | three =>
      simp only [take] at htake
      split at htake <;> cases htake

theorem val_ofNat {n : Nat} (h : n.isValidChar) : (Char.ofNat n).val.toNat = n := by
  have he : Char.ofNat n = Char.ofNatAux n h := dif_pos h
  rw [he]
  rfl

theorem ofNat_eq {n : Nat} (h : n = x.toNat) : UInt8.ofNat n = x := by
  rw [h, UInt8.ofNat_toNat]

theorem low_add (h : isContinuation x = true) : low x + 0x80 = x.toNat ∧ low x < 0x40 := by
  rw [isContinuation_iff] at h
  rw [low]
  omega

theorem isContinuation_of_isSecond (h : isSecond x y = true) : isContinuation y = true := by
  rw [isSecond_iff] at h
  exact isContinuation_iff.mpr ⟨h.1, h.2.1⟩

theorem singleton_of_take (h : take [] x = .char c) : [x] = String.utf8EncodeChar c := by
  simp only [take] at h
  split at h
  · next hx =>
    simp only [UInt8.lt_iff_toNat_lt, UInt8.reduceToNat] at hx
    obtain rfl := Taken.char.inj h
    rw [String.utf8EncodeChar, val_ofNat (.inl (by omega))]
    simp only [if_pos (show x.toNat ≤ 0x7F by omega), UInt8.ofNat_toNat]
  · split at h <;> cases h

theorem pair_of_take (hx : 0xC2 ≤ x.toNat) (h : take [x] y = .char c) :
    [x, y] = String.utf8EncodeChar c := by
  simp only [take] at h
  split at h
  · next hx' =>
    simp only [UInt8.le_iff_toNat_le, UInt8.reduceToNat] at hx'
    split at h
    · next hy =>
      obtain ⟨hlow, hlt⟩ := low_add hy
      obtain rfl := Taken.char.inj h
      generalize hv : x.toNat % 0x20 * 0x40 + low y = v
      rw [String.utf8EncodeChar, val_ofNat (.inl (by omega))]
      simp only [if_neg (show ¬ v ≤ 0x7F by omega), if_pos (show v ≤ 0x7FF by omega)]
      rw [ofNat_eq (show _ = x.toNat by omega), ofNat_eq (show _ = y.toNat by omega)]
    · cases h
  · split at h <;> cases h

theorem triple_of_take (hx : 0xE0 ≤ x.toNat) (hy : isSecond x y = true)
    (h : take [x, y] z = .char c) : [x, y, z] = String.utf8EncodeChar c := by
  simp only [take] at h
  split at h
  · next hz =>
    split at h
    · next hx' =>
      simp only [UInt8.le_iff_toNat_le, UInt8.reduceToNat] at hx'
      obtain ⟨hlow, hlt⟩ := low_add (isContinuation_of_isSecond hy)
      obtain ⟨hlow', hlt'⟩ := low_add hz
      rw [isSecond_iff] at hy
      obtain rfl := Taken.char.inj h
      generalize hv : x.toNat % 0x10 * 0x1000 + low y * 0x40 + low z = v
      -- neither too short a code nor a surrogate
      rw [String.utf8EncodeChar, val_ofNat (show _ ∨ _ by omega)]
      simp only [if_neg (show ¬ v ≤ 0x7F by omega), if_neg (show ¬ v ≤ 0x7FF by omega),
        if_pos (show v ≤ 0xFFFF by omega)]
      rw [ofNat_eq (show _ = x.toNat by omega), ofNat_eq (show _ = y.toNat by omega),
        ofNat_eq (show _ = z.toNat by omega)]
    · cases h
  · cases h

theorem quadruple_of_take {w : UInt8} (hx : 0xF0 ≤ x.toNat) (hx' : x.toNat ≤ 0xF4)
    (hy : isSecond x y = true) (hz : isContinuation z = true) (h : take [x, y, z] w = .char c) :
    [x, y, z, w] = String.utf8EncodeChar c := by
  simp only [take] at h
  split at h
  · next hw =>
    obtain ⟨hlow, hlt⟩ := low_add (isContinuation_of_isSecond hy)
    obtain ⟨hlow', hlt'⟩ := low_add hz
    obtain ⟨hlow'', hlt''⟩ := low_add hw
    rw [isSecond_iff] at hy
    obtain rfl := Taken.char.inj h
    generalize hv : x.toNat % 0x08 * 0x40000 + low y * 0x1000 + low z * 0x40 + low w = v
    -- neither too short a code nor one beyond the last character
    rw [String.utf8EncodeChar, val_ofNat (show _ ∨ _ by omega)]
    simp only [if_neg (show ¬ v ≤ 0x7F by omega), if_neg (show ¬ v ≤ 0x7FF by omega),
      if_neg (show ¬ v ≤ 0xFFFF by omega)]
    rw [ofNat_eq (show _ = x.toNat by omega), ofNat_eq (show _ = y.toNat by omega),
      ofNat_eq (show _ = z.toNat by omega), ofNat_eq (show _ = w.toNat by omega)]
  · cases h

theorem Begins.append_singleton (h : Begins seen) (htake : take seen x = .char c) :
    seen ++ [x] = String.utf8EncodeChar c := by
  cases h with
  | none => exact singleton_of_take htake
  | one ha _ => exact pair_of_take ha htake
  | two ha _ hsecond => exact triple_of_take ha hsecond htake
  | three ha ha' hsecond hthird => exact quadruple_of_take ha ha' hsecond hthird htake

theorem append_eq_of_read (hseen : Unfinished seen) (h : read seen bs = .text cs p) :
    seen ++ bs = encode cs ++ p := by
  induction bs generalizing seen cs with
  | nil =>
    obtain ⟨rfl, rfl⟩ := Reading.text.inj h
    simp [encode]
  | cons x bs ih =>
    rw [read] at h
    split at h
    · next c hc =>
      obtain ⟨ds, hds, rfl⟩ := Reading.cons_eq_text_iff.mp h
      have hchar := hseen.begins.append_singleton hc
      have hrest := ih unfinished_nil hds
      rw [List.nil_append] at hrest
      rw [List.append_cons, hchar, hrest]
      simp [encode]
    · next hm =>
      have hnext : Unfinished (seen ++ [x]) := by
        refine hseen.read_append.mpr ?_
        rw [read, hm]
        rfl
      rw [List.append_cons]
      exact ih hnext h
    · cases h

theorem eq_encode_append_of_read (h : read [] bs = .text cs p) : bs = encode cs ++ p :=
  append_eq_of_read unfinished_nil h

theorem exists_isSecond (x : UInt8) : ∃ y, isSecond x y = true := by
  by_cases h : x.toNat = 0xE0
  · exact ⟨0xA0, isSecond_iff.mpr (by simp [h])⟩
  by_cases h' : x.toNat = 0xF0
  · exact ⟨0x90, isSecond_iff.mpr (by simp [h'])⟩
  · exact ⟨0x80, isSecond_iff.mpr (by simp [h, h'])⟩

theorem Begins.exists_char_of_take (h : Begins p) (htake : take p x = .char c) :
    ∃ c, p <+: String.utf8EncodeChar c :=
  ⟨c, [x], h.append_singleton htake⟩

theorem exists_char_left (h : ∃ c, a ++ b <+: String.utf8EncodeChar c) :
    ∃ c, a <+: String.utf8EncodeChar c := by
  obtain ⟨c, hc⟩ := h
  exact ⟨c, (List.prefix_append a b).trans hc⟩

theorem exists_char_three (hx : 0xF0 ≤ x.toNat) (hx' : x.toNat ≤ 0xF4) (hy : isSecond x y = true)
    (hz : isContinuation z = true) : ∃ c, [x, y, z] <+: String.utf8EncodeChar c :=
  (Begins.three hx hx' hy hz).exists_char_of_take (x := 0x80) rfl

theorem exists_char_two (hx : 0xE0 ≤ x.toNat) (hx' : x.toNat ≤ 0xF4) (hy : isSecond x y = true) :
    ∃ c, [x, y] <+: String.utf8EncodeChar c := by
  by_cases hle : x ≤ 0xEF
  · have htake : take [x, y] 0x80 = .char _ := if_pos hle
    exact (Begins.two hx hx' hy).exists_char_of_take htake
  · simp only [UInt8.le_iff_toNat_le, UInt8.reduceToNat] at hle
    exact exists_char_left (b := [0x80]) (exists_char_three (by omega) hx' hy rfl)

theorem exists_char_one (hx : 0xC2 ≤ x.toNat) (hx' : x.toNat ≤ 0xF4) :
    ∃ c, [x] <+: String.utf8EncodeChar c := by
  by_cases hle : x ≤ 0xDF
  · have htake : take [x] 0x80 = .char _ := if_pos hle
    exact (Begins.one hx hx').exists_char_of_take htake
  · simp only [UInt8.le_iff_toNat_le, UInt8.reduceToNat] at hle
    obtain ⟨y, hy⟩ := exists_isSecond x
    exact exists_char_left (b := [y]) (exists_char_two (by omega) hx' hy)

theorem Begins.exists_char (h : Begins p) : ∃ c, p <+: String.utf8EncodeChar c := by
  cases h with
  | none => exact ⟨' ', List.nil_prefix⟩
  | one hx hx' => exact exists_char_one hx hx'
  | two hx hx' hy => exact exists_char_two hx hx' hy
  | three hx hx' hy hz => exact exists_char_three hx hx' hy hz

theorem Unfinished.exists_char (h : Unfinished p) :
    ∃ c, p <+: String.utf8EncodeChar c ∧ p ≠ String.utf8EncodeChar c := by
  obtain ⟨c, hc⟩ := h.begins.exists_char
  refine ⟨c, hc, ?_⟩
  rintro rfl
  rw [Unfinished, read_utf8EncodeChar] at h
  cases h

theorem Unfinished.length_le (h : Unfinished p) : p.length ≤ 3 := by
  cases h.begins <;> simp

theorem isOpenText_iff_read : IsOpenText bs ↔ ∃ cs p, read [] bs = .text cs p := by
  constructor
  · rintro ⟨cs, p, c, rfl, hprefix, hne⟩
    have hp : Unfinished p := unfinished_of_prefix hprefix hne
    exact ⟨cs, p, read_encode cs hp⟩
  · rintro ⟨cs, p, h⟩
    obtain ⟨c, hc, hne⟩ := (unfinished_of_read unfinished_nil h).exists_char
    exact ⟨cs, p, c, eq_encode_append_of_read h, hc, hne⟩

theorem isOpenText_iff_exists_append : IsOpenText bs ↔ ∃ more ds, bs ++ more = encode ds := by
  constructor
  · rintro ⟨cs, p, c, rfl, ⟨more, hmore⟩, -⟩
    refine ⟨more, cs ++ [c], ?_⟩
    rw [List.append_assoc, hmore]
    simp [encode]
  · rintro ⟨more, ds, h⟩
    have hread := read_encode_self ds
    rw [← h, read_append_iff] at hread
    obtain ⟨cs, p, _, hbs, -⟩ := hread
    exact isOpenText_iff_read.mpr ⟨cs, p, hbs⟩

theorem IsOpenText.left (h : IsOpenText (a ++ b)) : IsOpenText a := by
  obtain ⟨more, ds, hmore⟩ := isOpenText_iff_exists_append.mp h
  rw [List.append_assoc] at hmore
  exact isOpenText_iff_exists_append.mpr ⟨b ++ more, ds, hmore⟩

/-- A text begins with another if its bytes do, also if they end inside a character. -/
theorem encode_prefix_iff (hp : Unfinished p) : encode cs <+: encode ds ++ p ↔ cs <+: ds := by
  constructor
  · rintro ⟨rest, h⟩
    have hread := read_encode ds hp
    rw [← h, read_append_iff] at hread
    obtain ⟨es, _, fs, hcs, -, rfl⟩ := hread
    obtain ⟨rfl, -⟩ := Reading.text.inj (hcs.symm.trans (read_encode_self cs))
    exact List.prefix_append es fs
  · rintro ⟨es, rfl⟩
    exact ⟨encode es ++ p, by simp [encode]⟩

/-- What no text begins with does not become the beginning of one behind a text. -/
theorem not_isOpenText_encode_append (h : ∀ more ds, b ++ more ≠ encode ds) :
    ¬ IsOpenText (encode cs ++ b) := by
  rw [isOpenText_iff_exists_append]
  rintro ⟨more, ds, hmore⟩
  rw [List.append_assoc] at hmore
  have hprefix : encode cs <+: encode ds ++ [] := ⟨b ++ more, by rw [hmore, List.append_nil]⟩
  obtain ⟨es, rfl⟩ := (encode_prefix_iff unfinished_nil).mp hprefix
  refine h more es (List.append_cancel_left (hmore.trans ?_))
  simp [encode]

theorem prefix_or_prefix_of_encode (hcs : encode cs <+: bs) (hds : encode ds <+: bs) :
    cs <+: ds ∨ ds <+: cs := by
  rcases List.prefix_or_prefix_of_prefix hcs hds with h | h
  · exact .inl ((encode_prefix_iff unfinished_nil).mp (by rwa [List.append_nil]))
  · exact .inr ((encode_prefix_iff unfinished_nil).mp (by rwa [List.append_nil]))

theorem exists_malformed (hread : read [] a = .text cs p) (h : ¬ IsOpenText (a ++ b)) :
    ∃ index width, read [] (p ++ b) = .malformed index width := by
  cases hb : read [] (p ++ b) with
  | text ds q =>
    have hp := unfinished_of_read unfinished_nil hread
    have hwhole : read [] (a ++ b) = .text (cs ++ ds) q :=
      read_append_iff.mpr ⟨cs, p, ds, hread, hp.read_append.mp hb, rfl⟩
    exact absurd (isOpenText_iff_read.mpr ⟨_, _, hwhole⟩) h
  | malformed index width => exact ⟨index, width, rfl⟩

end Parley.Utf8
