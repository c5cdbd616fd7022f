import Parley.Proofs.Provider.Chunks
import Parley.Proofs.Text.Completion

/-! # Text taken off the bytes that wait

After each chunk a decoder takes the text off the bytes that wait. It does so in two passes: the
first finds where the last complete character ends, and the second turns the bytes up to there into
text. The second never fails. The texts taken so far and the bytes that still wait are together all
the bytes that have come, and those that wait begin one character.
-/

namespace Parley

namespace Utf8

def textLength (bytes : List UInt8) : Except Fault Nat :=
  match decode bytes with
  | .ok _ => .ok bytes.length
  | .error (.incomplete index) => .ok index
  | .error (.invalid index width) => .error (.invalid index width)

/-- Takes the text off the front of the bytes and leaves the bytes of an unfinished character. Bytes
that form no text are dropped, all of them. -/
def takeText (bytes : List UInt8) : Except Fault (List Char) × List UInt8 :=
  match textLength bytes with
  | .ok n => (decode (bytes.take n), bytes.drop n)
  | .error fault => (.error fault, [])

/-- Takes the text after each chunk, off the bytes that were left and those of the chunk. -/
def takeTexts (left : List UInt8) :
    List (List UInt8) → List (Except Fault (List Char)) × List UInt8
  | [] => ([], left)
  | bs :: chunks =>
    let (result, left) := takeText (left ++ bs)
    let (results, left) := takeTexts left chunks
    (result :: results, left)

variable {p q bs : List UInt8} {cs : List Char} {fault : Fault} {n : ℕ}
  {chunks : List (List UInt8)}

theorem decode_encode (cs : List Char) : decode (encode cs) = .ok cs := by
  rw [decode, read_encode_self]

theorem textLength_of_text (h : read [] bs = .text cs p) :
    textLength bs = .ok (encode cs).length := by
  have hbytes : bs = encode cs ++ p := eq_encode_append_of_read h
  have hlength := congrArg List.length hbytes
  rw [List.length_append] at hlength
  cases p with
  | nil =>
    have hdecode : decode bs = .ok cs := by rw [decode, h]
    rw [textLength, hdecode]
    exact congrArg Except.ok hlength
  | cons x p =>
    have hdecode : decode bs = .error (.incomplete (bs.length - (x :: p).length)) := by
      rw [decode, h]
    rw [textLength, hdecode]
    apply congrArg Except.ok
    omega

theorem textLength_of_malformed {index width : ℕ} (h : read [] bs = .malformed index width) :
    textLength bs = .error (.invalid index width) := by
  have hdecode : decode bs = .error (.invalid index width) := by rw [decode, h]
  rw [textLength, hdecode]

/-- What the first pass finds is a text for the second. -/
theorem exists_text_of_textLength (h : textLength bs = .ok n) :
    ∃ cs, decode (bs.take n) = .ok cs := by
  cases hread : read [] bs with
  | text cs p =>
    obtain rfl : (encode cs).length = n := Except.ok.inj ((textLength_of_text hread).symm.trans h)
    have hbytes : bs = encode cs ++ p := eq_encode_append_of_read hread
    refine ⟨cs, ?_⟩
    rw [hbytes, List.take_left, decode_encode]
  | malformed index width =>
    rw [textLength_of_malformed hread] at h
    cases h

theorem takeText_of_text (h : read [] bs = .text cs p) : takeText bs = (.ok cs, p) := by
  have hbytes : bs = encode cs ++ p := eq_encode_append_of_read h
  unfold takeText
  rw [textLength_of_text h, hbytes]
  simp only [List.take_left, List.drop_left, decode_encode]

theorem takeText_of_malformed {index width : ℕ} (h : read [] bs = .malformed index width) :
    takeText bs = (.error (.invalid index width), []) := by
  unfold takeText
  rw [textLength_of_malformed h]

theorem of_takeText_error (h : takeText bs = (.error fault, p)) :
    ¬ IsOpenText bs ∧ p = [] := by
  constructor
  · intro htext
    obtain ⟨cs, p, hread⟩ := isOpenText_iff_read.mp htext
    rw [takeText_of_text hread] at h
    cases h
  · cases hread : read [] bs with
    | text cs p =>
      rw [takeText_of_text hread] at h
      cases h
    | malformed index width =>
      rw [takeText_of_malformed hread] at h
      cases h
      rfl

/-- Taking the text after each chunk gives the text of all of them, in pieces. -/
theorem exists_texts (hp : Unfinished p) (hread : read p chunks.flatten = .text cs q) :
    ∃ texts : List (List Char), takeTexts p chunks = (texts.map .ok, q) ∧
      texts.flatten = cs := by
  -- the bytes that were left are all that the next chunk needs
  induction chunks generalizing p cs with
  | nil =>
    obtain ⟨rfl, rfl⟩ := Reading.text.inj hread
    exact ⟨[], rfl, rfl⟩
  | cons bs chunks ih =>
    rw [List.flatten_cons, read_append_iff] at hread
    obtain ⟨ds, p', es, hds, hes, rfl⟩ := hread
    obtain ⟨texts, htexts, rfl⟩ := ih (unfinished_of_read hp hds) hes
    have htake : takeText (p ++ bs) = (.ok ds, p') := takeText_of_text (hp.read_append.mpr hds)
    refine ⟨ds :: texts, ?_, rfl⟩
    simp only [takeTexts, htake, htexts, List.map_cons]

end Utf8

namespace Provider.EventStream

open Utf8 (IsOpenText Unfinished takeText takeTexts textLength)

theorem receive_eq_takeText (s : EventStream) (bs : List UInt8) :
    s.receive (.bytes bs) =
      match takeText (s.pending ++ bs) with
      | (.ok cs, left) =>
        ({ pending := left, buffer := (frames (normalize (s.buffer ++ cs))).2 },
          (frames (normalize (s.buffer ++ cs))).1.map Event.ofFrame)
      | (.error fault, left) => ({ s with pending := left }, [.error (malformed fault)]) := by
  cases hread : Utf8.read [] (s.pending ++ bs) with
  | text cs p => simp only [receive, hread, Utf8.takeText_of_text hread]
  | malformed index width => simp only [receive, hread, Utf8.takeText_of_malformed hread]

theorem pending_receive (s : EventStream) (bs : List UInt8) :
    (s.receive (.bytes bs)).1.pending = (takeText (s.pending ++ bs)).2 := by
  rw [receive_eq_takeText]
  split <;> simp_all

theorem pending_feed (s : EventStream) (chunks : List (List UInt8)) :
    (s.feed (chunks.map .bytes)).1.pending = (takeTexts s.pending chunks).2 := by
  induction chunks generalizing s with
  | nil => rfl
  | cons bs chunks ih =>
    rw [List.map_cons, feed, takeTexts, ih, pending_receive]

/-- Chunks whose bytes are those of a text, the last character of which may be cut short, give a
text each. The bytes of the texts taken after the first chunks and the bytes that then wait in the
decoder are all the bytes of these chunks; those that wait, three at most, begin a character and do
not complete it. On bytes of any kind the second pass never fails, and where the first fails no byte
is left. -/
theorem texts_spell_chunks (chunks : List (List UInt8)) :
    (IsOpenText chunks.flatten → ∀ before, before <+: chunks →
      ∃ (texts : List (List Char)) (left : List UInt8),
        takeTexts [] before = (texts.map .ok, left) ∧
        (feed {} (before.map .bytes)).1.pending = left ∧
        Utf8.encode texts.flatten ++ left = before.flatten ∧
        (∃ c, left <+: String.utf8EncodeChar c ∧ left ≠ String.utf8EncodeChar c) ∧
        left.length ≤ 3) ∧
      (∀ bytes fault left, takeText bytes = (.error fault, left) →
        ¬ IsOpenText bytes ∧ left = []) ∧
      (∀ bytes n, textLength bytes = .ok n → ∃ cs, Utf8.decode (bytes.take n) = .ok cs) ∧
      ∀ (s : EventStream) bs, s.receive (.bytes bs) =
        match takeText (s.pending ++ bs) with
        | (.ok cs, left) =>
          ({ pending := left, buffer := (frames (normalize (s.buffer ++ cs))).2 },
            (frames (normalize (s.buffer ++ cs))).1.map Event.ofFrame)
        | (.error fault, left) => ({ s with pending := left }, [.error (malformed fault)]) := by
  refine ⟨?_, fun _ _ _ => Utf8.of_takeText_error, fun _ _ => Utf8.exists_text_of_textLength,
    receive_eq_takeText⟩
  rintro htext before ⟨rest, rfl⟩
  rw [List.flatten_append] at htext
  obtain ⟨cs, p, hread⟩ := Utf8.isOpenText_iff_read.mp htext.left
  have hp : Unfinished p := Utf8.unfinished_of_read Utf8.unfinished_nil hread
  obtain ⟨texts, htexts, rfl⟩ := Utf8.exists_texts Utf8.unfinished_nil hread
  refine ⟨texts, p, htexts, ?_, ?_, hp.exists_char, hp.length_le⟩
  · rw [pending_feed, htexts]
  · exact (Utf8.eq_encode_append_of_read hread).symm

/-- The chunks are cut within two characters, and the second of these never ends. A byte that stands
in no text takes the letter before it along. -/
theorem texts_spell_chunks_euro :
    let before : List (List UInt8) := [[0x61, 0xE2], [], [0x82]]
    let chunks := before ++ [[0xAC, 0xF0], [0x9F, 0x98]]
    let bytes : List UInt8 := [0x61, 0xFF]
    IsOpenText chunks.flatten ∧ before <+: chunks ∧
      (∃ (texts : List (List Char)) (left : List UInt8),
        takeTexts [] before = (texts.map .ok, left) ∧
        (feed {} (before.map .bytes)).1.pending = left ∧
        Utf8.encode texts.flatten ++ left = before.flatten ∧
        (∃ c, left <+: String.utf8EncodeChar c ∧ left ≠ String.utf8EncodeChar c) ∧
        left.length ≤ 3) ∧
      takeText bytes = (.error (.invalid 1 1), []) ∧ ¬ IsOpenText bytes ∧
      textLength [0x61, 0xE2] = .ok 1 ∧ ∃ cs, Utf8.decode ([0x61, 0xE2].take 1) = .ok cs := by
  intro before chunks bytes
  have htext : IsOpenText chunks.flatten := ⟨['a', '€'], [0xF0, 0x9F, 0x98], '😀', by decide⟩
  have hbefore : before <+: chunks := List.prefix_append ..
  have hfails : takeText bytes = (.error (.invalid 1 1), []) := by decide
  have hlength : textLength [0x61, 0xE2] = .ok 1 := by decide
  obtain ⟨hspells, hleft, hpass, -⟩ := texts_spell_chunks chunks
  exact ⟨htext, hbefore, hspells htext before hbefore, hfails, (hleft _ _ _ hfails).1, hlength,
    hpass _ _ hlength⟩

end Provider.EventStream

end Parley
