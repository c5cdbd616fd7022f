/-! # Blanks and trimming

A blank is a character with the Unicode property White_Space. Trimming drops the blanks at both
ends of a text and nothing else.
-/

namespace Parley.Text

def isBlank (c : Char) : Bool :=
  let n := c.toNat
  (0x09 ≤ n && n ≤ 0x0D) || n == 0x20 || n == 0x85 || n == 0xA0 || n == 0x1680 ||
    (0x2000 ≤ n && n ≤ 0x200A) || n == 0x2028 || n == 0x2029 || n == 0x202F || n == 0x205F ||
    n == 0x3000

def trimEnd (cs : List Char) : List Char :=
  (cs.reverse.dropWhile isBlank).reverse

def trim (cs : List Char) : List Char :=
  trimEnd (cs.dropWhile isBlank)

def trimmed (s : String) : String :=
  String.ofList (trim s.toList)

theorem isBlank_head?_dropWhile {cs : List Char} {c : Char}
    (h : (cs.dropWhile isBlank).head? = some c) : isBlank c = false := by
  induction cs with
  | nil => simp at h
  | cons d ds ih => grind [List.dropWhile_cons]

theorem dropWhile_isBlank_eq_self {cs : List Char}
    (h : ∀ c, cs.head? = some c → isBlank c = false) : cs.dropWhile isBlank = cs := by
  cases cs with
  | nil => rfl
  | cons c cs => simp [h c rfl]

theorem trimEnd_trimEnd (cs : List Char) : trimEnd (trimEnd cs) = trimEnd cs := by
  rw [trimEnd, trimEnd, List.reverse_reverse,
    dropWhile_isBlank_eq_self fun _ h => isBlank_head?_dropWhile h]

theorem head?_of_head?_trimEnd {cs : List Char} {c : Char} (h : (trimEnd cs).head? = some c) :
    cs.head? = some c := by
  obtain ⟨ds, hd⟩ := List.dropWhile_suffix (l := cs.reverse) isBlank
  have hcs : cs = trimEnd cs ++ ds.reverse := by
    rw [trimEnd, ← List.reverse_append, hd, List.reverse_reverse]
  rw [hcs]
  cases hs : trimEnd cs with
  | nil => simp [hs] at h
  | cons d rest => simpa [hs] using h

theorem trim_trim (cs : List Char) : trim (trim cs) = trim cs := by
  rw [trim, trim, dropWhile_isBlank_eq_self fun _ h =>
    isBlank_head?_dropWhile (head?_of_head?_trimEnd h), trimEnd_trimEnd]

end Parley.Text
