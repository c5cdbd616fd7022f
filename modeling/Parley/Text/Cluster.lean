import Parley.Text.ClusterTables

/-! # Grapheme clusters

What a reader takes for one character may be several: a letter with its accents, the letters of a
syllable, a flag, pictographs that are joined. A text splits into such clusters.
-/

namespace Parley.Text

inductive Joining where
  | carriageReturn
  | lineFeed
  | control
  | extend
  /-- Goes on any cluster, and binds the consonant after it to the one before it. -/
  | linker
  /-- Goes on any cluster, and keeps consonants apart. -/
  | separator
  /-- Goes on any cluster, and binds the pictograph after it to the one before it. -/
  | joiner
  | spacing
  | prepend
  | consonant
  | pictograph
  | regional
  | lead
  | vowel
  | tail
  | openSyllable
  | closedSyllable
  | other
  deriving DecidableEq, Repr

namespace Joining

def isIn (ranges : List (Nat × Nat)) (n : Nat) : Bool :=
  ranges.any fun r => r.1 ≤ n && n ≤ r.2

def ofChar (c : Char) : Joining :=
  let n := c.toNat
  if n == 0x0D then carriageReturn
  else if n == 0x0A then lineFeed
  else if n < 0x20 || n == 0x7F then control
  else if n < 0x7F then other
  else if 0xAC00 ≤ n && n ≤ 0xD7A3 then
    if (n - 0xAC00) % 28 == 0 then openSyllable else closedSyllable
  else if 0x1F1E6 ≤ n && n ≤ 0x1F1FF then regional
  else if n == 0x200C then separator
  else if n == 0x200D then joiner
  else if linkers.contains n then linker
  else if isIn extendRanges n then extend
  else if isIn spacingRanges n then spacing
  else if isIn consonantRanges n then consonant
  else if isIn pictographRanges n then pictograph
  else if isIn controlRanges n then control
  else if isIn leadRanges n then lead
  else if isIn vowelRanges n then vowel
  else if isIn tailRanges n then tail
  else if isIn prependRanges n then prepend
  else other

def isAlone : Joining → Bool
  | carriageReturn | lineFeed | control => true
  | _ => false

def isExtending : Joining → Bool
  | extend | linker | separator => true
  | _ => false

def isInConjunct : Joining → Bool
  | extend | linker | joiner => true
  | _ => false

end Joining

/-- Whether characters, nearest first, begin with a pictograph after what extends it. -/
def endsPictograph (before : List Char) : Bool :=
  (before.dropWhile fun b => (Joining.ofChar b).isExtending).head?.map Joining.ofChar ==
    some .pictograph

/-- Whether characters, nearest first, bind a consonant after them to one among them. -/
def endsConjunct (before : List Char) : Bool :=
  let isBetween (b : Char) : Bool := (Joining.ofChar b).isInConjunct
  (before.takeWhile isBetween).any (Joining.ofChar · == .linker) &&
    (before.dropWhile isBetween).head?.map Joining.ofChar == some .consonant

/-- Whether a character goes on the cluster of the characters before it, nearest first. -/
def joins (before : List Char) (c : Char) : Bool :=
  match before with
  | [] => false
  | last :: earlier =>
    match Joining.ofChar last, Joining.ofChar c with
    | .carriageReturn, .lineFeed => true
    | .lead, .lead | .lead, .vowel | .lead, .openSyllable | .lead, .closedSyllable => true
    | .openSyllable, .vowel | .openSyllable, .tail | .vowel, .vowel | .vowel, .tail => true
    | .closedSyllable, .tail | .tail, .tail => true
    | .regional, .regional =>
      (earlier.takeWhile fun b => Joining.ofChar b == .regional).length % 2 == 0
    | a, b =>
      !a.isAlone && !b.isAlone &&
        (b.isExtending || b == .joiner || b == .spacing || a == .prepend ||
          (b == .consonant && endsConjunct before) ||
          (a == .joiner && b == .pictograph && endsPictograph earlier))

/-- Adds a character to clusters. Both the clusters and their characters stand in the order from
the last to the first. -/
def addToClusters (clusters : List (List Char)) (c : Char) : List (List Char) :=
  match clusters with
  | [] => [[c]]
  | last :: rest => if joins last c then (c :: last) :: rest else [c] :: last :: rest

def clusters (cs : List Char) : List (List Char) :=
  ((cs.foldl addToClusters []).map List.reverse).reverse

end Parley.Text
