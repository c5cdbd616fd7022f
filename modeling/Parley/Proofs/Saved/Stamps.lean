import Parley.SessionId
import Parley.Timestamp
import Mathlib.Algebra.Group.Nat.Defs
import Mathlib.Data.List.TakeWhile

/-! # Identifiers and timestamps read back

An identifier in five groups is read as the same identifier. A timestamp of the years 0 to 9999 is
read as the same timestamp, with all nine decimal places of its seconds and with its distance from
universal time.
-/

namespace Parley

namespace SessionId

variable {ds : List Char}

theorem digit?_digitChar : ∀ d : Fin 16, digit? (digitChar d) = some d := by
  decide

theorem digitChar_ne : ∀ d : Fin 16, Text.asciiSmall (digitChar d) ≠ 'u' ∧ digitChar d ≠ '\x7b' := by
  decide

theorem mapM_digit? (ds : List (Fin 16)) : (ds.map digitChar).mapM digit? = some ds := by
  induction ds with
  | nil => rfl
  | cons d ds ih =>
    rw [List.map_cons, List.mapM_cons, digit?_digitChar, ih]
    rfl

theorem ofDigits?_digitChar (id : SessionId) : ofDigits? (id.digits.map digitChar) = some id := by
  rw [ofDigits?, mapM_digit?]
  exact dif_pos id.length_eq

theorem length_group (h : ds.length = 32) : (group ds).length = 36 := by
  simp [group, h]

theorem take_append_groups (ds : List Char) :
    ds.take 8 ++ ((ds.drop 8).take 4 ++ ((ds.drop 12).take 4 ++ ((ds.drop 16).take 4 ++
      ds.drop 20))) = ds := by
  have hgroup (n : Nat) : (ds.drop n).take 4 ++ ds.drop (n + 4) = ds.drop n := by
    rw [← List.drop_drop, List.take_append_drop]
  rw [hgroup 16, hgroup 12, hgroup 8, List.take_append_drop]

theorem ungroup?_group (h : ds.length = 32) : ungroup? (group ds) = some ds := by
  have hgroups : (group ds).take 8 ++ (((group ds).drop 9).take 4 ++ (((group ds).drop 14).take 4 ++
      (((group ds).drop 19).take 4 ++ (group ds).drop 24))) = ds := by
    simpa [group, h, List.take_append, List.drop_append, List.drop_take] using take_append_groups ds
  rw [ungroup?, hgroups]
  exact if_pos rfl

theorem ofGrouped?_toChars (id : SessionId) : ofGrouped? id.toChars = some id := by
  have hlength : (id.digits.map digitChar).length = 32 := by rw [List.length_map, id.length_eq]
  rw [ofGrouped?, toChars, ungroup?_group hlength]
  exact ofDigits?_digitChar id

theorem not_isUrn (d : Fin 16) (cs : List Char) :
    Text.eqIgnoringAsciiCase (digitChar d :: cs) namespaceOfUrn = false := by
  have hurn : namespaceOfUrn = 'u' :: "rn:uuid:".toList := by decide
  have hu : Text.asciiSmall 'u' = 'u' := by decide
  rw [hurn, Text.eqIgnoringAsciiCase, List.map_cons, List.map_cons, hu, List.cons_beq_cons,
    beq_eq_false_iff_ne.mpr (digitChar_ne d).1, Bool.false_and]

theorem parse?_text (id : SessionId) : parse? id.text = some id := by
  have hlength : id.toChars.length = 36 := length_group (by rw [List.length_map, id.length_eq])
  have hread := ofGrouped?_toChars id
  obtain ⟨d, rest, hchars⟩ : ∃ d rest, id.toChars = digitChar d :: rest := by
    match hds : id.digits with
    | [] => exact absurd id.length_eq (by simp [hds])
    | d :: ds => exact ⟨d, _, by rw [toChars, hds]; rfl⟩
  have htext : id.text.toList = digitChar d :: rest := by
    rw [text, String.toList_ofList, hchars]
  rw [hchars] at hread hlength
  have hfront : (digitChar d :: rest).splitAt namespaceOfUrn.length =
      (digitChar d :: rest.take 8, (digitChar d :: rest).drop 9) := by
    rw [List.splitAt_eq]
    rfl
  rw [parse?, htext, hfront]
  simp only [hlength, not_isUrn]
  rw [if_neg (by decide), if_neg (by decide)]
  split
  · next heq => exact absurd (List.cons.inj heq).1 (digitChar_ne d).2
  · exact hread

end SessionId

namespace Timestamp

variable {cs : List Char} {n d w : Nat}

theorem digit?_digitChar : ∀ d < 10, digit? (Nat.digitChar d) = some d := by
  decide

theorem number?_concat (hn : number? cs = some n) (hd : d < 10) :
    number? (cs ++ [Nat.digitChar d]) = some (n * 10 + d) := by
  obtain ⟨ds, hds, rfl⟩ := Option.map_eq_some_iff.mp hn
  rw [number?, List.mapM_append, hds, List.mapM_cons, digit?_digitChar d hd]
  simp

theorem padded_one (h : n < 10) : padded 1 n = [Nat.digitChar n] := by
  rw [padded, Nat.toDigits_of_lt_base h]
  rfl

theorem padded_succ (hw : 0 < w) (n : Nat) :
    padded (w + 1) n = padded w (n / 10) ++ [Nat.digitChar (n % 10)] := by
  simp only [padded]
  by_cases hn : n < 10
  · obtain ⟨v, rfl⟩ : ∃ v, w = v + 1 := ⟨w - 1, by omega⟩
    have hzero : Nat.digitChar 0 = '0' := rfl
    rw [Nat.toDigits_of_lt_base hn, Nat.div_eq_of_lt hn, Nat.mod_eq_of_lt hn, Nat.toDigits_zero]
    simp [List.replicate_succ']
  · rw [Nat.toDigits_of_base_le (by decide) (by omega)]
    simp

/-- A number that fits is written with just as many digits, and read back. -/
theorem padded_spec (hw : 0 < w) (h : n < 10 ^ w) :
    (padded w n).length = w ∧ number? (padded w n) = some n ∧
      ∀ c ∈ padded w n, (digit? c).isSome = true := by
  induction w generalizing n with
  | zero => omega
  | succ w ih =>
    cases w with
    | zero =>
      have hn : n < 10 := by simpa using h
      have hdigit := digit?_digitChar n hn
      rw [padded_one hn]
      refine ⟨rfl, ?_, by simp [hdigit]⟩
      simp [number?, hdigit]
    | succ w =>
      have hn : n / 10 < 10 ^ (w + 1) := by
        rw [Nat.pow_succ] at h
        omega
      have hd : n % 10 < 10 := Nat.mod_lt _ (by decide)
      obtain ⟨hlength, hnumber, hdigits⟩ := ih (by omega) hn
      rw [padded_succ (by omega)]
      refine ⟨by simp [hlength], ?_, ?_⟩
      · rw [number?_concat hnumber hd]
        refine congrArg some ?_
        omega
      · intro c hc
        rcases List.mem_append.mp hc with hc | hc
        · exact hdigits c hc
        · rw [List.mem_singleton.mp hc, digit?_digitChar _ hd]
          rfl

theorem exists_padded_two (h : n < 100) :
    ∃ a b, padded 2 n = [a, b] ∧ number? [a, b] = some n := by
  obtain ⟨hlength, hnumber, -⟩ := padded_spec (w := 2) (n := n) (by decide) (by simpa using h)
  match hdigits : padded 2 n with
  | [a, b] => exact ⟨a, b, rfl, hdigits ▸ hnumber⟩
  | [] | [_] | _ :: _ :: _ :: _ => simp [hdigits] at hlength

theorem exists_padded_four (h : n < 10000) :
    ∃ a b c d, padded 4 n = [a, b, c, d] ∧ number? [a, b, c, d] = some n := by
  obtain ⟨hlength, hnumber, -⟩ := padded_spec (w := 4) (n := n) (by decide) (by simpa using h)
  match hdigits : padded 4 n with
  | [a, b, c, d] => exact ⟨a, b, c, d, rfl, hdigits ▸ hnumber⟩
  | [] | [_] | [_, _] | [_, _, _] | _ :: _ :: _ :: _ :: _ :: _ => simp [hdigits] at hlength

theorem exists_zone_cons (offset : Int) :
    ∃ c rest, zone offset = c :: rest ∧ digit? c = none ∧ c ≠ '.' := by
  unfold zone
  split
  · exact ⟨'Z', [], rfl, by decide, by decide⟩
  · split
    · exact ⟨'-', _, rfl, by decide, by decide⟩
    · exact ⟨'+', _, rfl, by decide, by decide⟩

theorem zone?_zone {offset : Int} (h : offset.natAbs < 1440) : zone? (zone offset) = some offset := by
  by_cases hzero : offset = 0
  · subst hzero
    rfl
  · obtain ⟨h₁, h₂, hhours, hhours'⟩ := exists_padded_two (n := offset.natAbs / 60) (by omega)
    obtain ⟨m₁, m₂, hminutes, hminutes'⟩ := exists_padded_two (n := offset.natAbs % 60) (by omega)
    have hin : offset.natAbs / 60 ≤ 23 ∧ offset.natAbs % 60 ≤ 59 := by omega
    rw [zone, if_neg hzero, hhours, hminutes]
    by_cases hsign : offset < 0
    · rw [if_pos hsign]
      simp only [List.cons_append, List.nil_append, zone?, hhours', hminutes', Option.bind_eq_bind,
        Option.bind_some]
      rw [if_pos hin, if_neg (by decide), if_pos trivial]
      refine congrArg some ?_
      omega
    · rw [if_neg hsign]
      simp only [List.cons_append, List.nil_append, zone?, hhours', hminutes', Option.bind_eq_bind,
        Option.bind_some]
      rw [if_pos hin, if_pos trivial]
      refine congrArg some ?_
      omega

/-- Zeros at the end come off, and may be put back. -/
theorem exists_replicate (cs : List Char) :
    ∃ k, (cs.reverse.dropWhile (· == '0')).reverse ++ List.replicate k '0' = cs := by
  refine ⟨(cs.reverse.takeWhile (· == '0')).length, ?_⟩
  have hzeros : (cs.reverse.takeWhile (· == '0')).reverse =
      List.replicate (cs.reverse.takeWhile (· == '0')).length '0' := by
    rw [List.eq_replicate_iff]
    refine ⟨List.length_reverse, fun c hc => ?_⟩
    simpa using List.mem_takeWhile_imp (List.mem_reverse.mp hc)
  rw [← hzeros, ← List.reverse_append, List.takeWhile_append_dropWhile, List.reverse_reverse]

theorem number?_zeros (k : Nat) : number? (List.replicate k '0') = some 0 := by
  induction k with
  | zero => rfl
  | succ k ih =>
    rw [List.replicate_succ']
    exact number?_concat (d := 0) ih (by decide)

theorem fraction?_append {ds rest : List Char} (hne : ds ≠ [])
    (hds : ∀ c ∈ ds, (digit? c).isSome = true)
    (hrest : ∀ c, rest.head? = some c → digit? c = none) :
    fraction? ('.' :: (ds ++ rest)) =
      (number? ((ds ++ List.replicate 9 '0').take 9)).map fun n => (n, rest) := by
  have hstop : rest.takeWhile (digit? · |>.isSome) = [] ∧
      rest.dropWhile (digit? · |>.isSome) = rest := by
    cases rest with
    | nil => exact ⟨rfl, rfl⟩
    | cons c rest => simp [hrest c rfl]
  have htake : (ds ++ rest).takeWhile (digit? · |>.isSome) = ds := by
    rw [List.takeWhile_append_of_pos hds, hstop.1, List.append_nil]
  have hdrop : (ds ++ rest).dropWhile (digit? · |>.isSome) = rest := by
    rw [List.dropWhile_append_of_pos hds, hstop.2]
  simp only [fraction?, htake, hdrop, List.isEmpty_iff, if_neg hne]

theorem fraction?_fraction (h : n < 1000000000) (offset : Int) :
    fraction? (fraction n ++ zone offset) = some (n, zone offset) := by
  obtain ⟨c, rest, hzone, hdigit, hpoint⟩ := exists_zone_cons offset
  by_cases hn : n = 0
  · rw [fraction, if_pos hn, List.nil_append, hzone, hn]
    unfold fraction?
    split
    · next heq => exact absurd (List.cons.inj heq).1 hpoint
    · rfl
  · obtain ⟨hlength, hnumber, hdigits⟩ := padded_spec (w := 9) (by decide) h
    obtain ⟨k, hk⟩ := exists_replicate (padded 9 n)
    rw [fraction, if_neg hn, List.cons_append]
    generalize ((padded 9 n).reverse.dropWhile (· == '0')).reverse = ds at hk ⊢
    have hne : ds ≠ [] := by
      rintro rfl
      rw [← hk, List.nil_append, number?_zeros] at hnumber
      exact hn (Option.some.inj hnumber).symm
    have hds : ∀ c ∈ ds, (digit? c).isSome = true := fun c hc =>
      hdigits c (hk ▸ List.mem_append_left _ hc)
    have hnext : ∀ c', (zone offset).head? = some c' → digit? c' = none := by
      intro c' hc'
      rw [hzone] at hc'
      exact Option.some.inj hc' ▸ hdigit
    have hplaces : (ds ++ List.replicate 9 '0').take 9 = padded 9 n := by
      have hk' : k ≤ 9 := by
        rw [← hk, List.length_append, List.length_replicate] at hlength
        omega
      have hzeros : List.replicate 9 '0' = List.replicate k '0' ++ List.replicate (9 - k) '0' := by
        rw [List.replicate_append_replicate, Nat.add_sub_cancel' hk']
      rw [hzeros, ← List.append_assoc, hk]
      exact List.take_left' hlength
    rw [fraction?_append hne hds hnext, hplaces, hnumber]
    rfl

theorem parse?_text {t : Timestamp} (h : t.Valid) : parse? t.text = some t := by
  have hvalid := h
  obtain ⟨hyear, -, hmonth, -, hday, hhour, hminute, hsecond, hnano, hoffset⟩ := h
  have hdays : daysIn t.year t.month < 100 := by
    unfold daysIn
    split_ifs <;> omega
  obtain ⟨y₁, y₂, y₃, y₄, hy, hy'⟩ := exists_padded_four (n := t.year) (by omega)
  obtain ⟨m₁, m₂, hm, hm'⟩ := exists_padded_two (n := t.month) (by omega)
  obtain ⟨d₁, d₂, hd, hd'⟩ := exists_padded_two (n := t.day) (by omega)
  obtain ⟨h₁, h₂, hh, hh'⟩ := exists_padded_two (n := t.hour) (by omega)
  obtain ⟨n₁, n₂, hn, hn'⟩ := exists_padded_two (n := t.minute) (by omega)
  obtain ⟨s₁, s₂, hs, hs'⟩ := exists_padded_two (n := t.second) (by omega)
  have hleap : t.second ≠ 60 := by omega
  have hfraction := fraction?_fraction hnano t.offset
  have hzone := zone?_zone hoffset
  rw [parse?, text, String.toList_ofList, toChars, clockChars, hy, hm, hd, hh, hn, hs]
  simp only [List.cons_append, List.nil_append, ofChars?, hy', hm', hd', hh', hn', hs', hfraction]
  simp [hzone, hleap, hvalid]

end Timestamp

end Parley
