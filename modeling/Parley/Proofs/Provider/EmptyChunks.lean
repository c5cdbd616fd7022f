import Parley.Proofs.Provider.Chunks
import Parley.Proofs.Text.Completion

/-! # Chunks without bytes

A chunk without bytes brings nothing, but the decoder takes it as an occasion to normalize the text
that it holds once more. That text has been normalized before, so this does nothing as long as no
line feed had two carriage returns in front of it: the first replacement leaves one of them, and the
second takes that one as well.
-/

namespace Parley.Provider.EventStream

open Utf8 (IsOpenText Unfinished)

variable {s : EventStream} {cs : List Char} {p bs : List UInt8} {before : List (List UInt8)}

/-- A decoder between two chunks: the bytes that wait begin a character, and the text that waits has
no blank line. -/
structure Settled (s : EventStream) : Prop where
  pending : Unfinished s.pending
  buffer : frames s.buffer = ([], s.buffer)

theorem Settled.start : Settled {} where
  pending := Utf8.unfinished_nil
  buffer := rfl

theorem Settled.receive (h : Settled s) (c : Chunk) : Settled (s.receive c).1 := by
  cases c with
  | bytes bs =>
    cases hread : Utf8.read [] (s.pending ++ bs) with
    | text cs q =>
      simp only [EventStream.receive, hread]
      exact ⟨Utf8.unfinished_of_read Utf8.unfinished_nil hread, frames_snd_frames _⟩
    | malformed index width =>
      simp only [EventStream.receive, hread]
      exact ⟨Utf8.unfinished_nil, h.buffer⟩
  | failure message cause => exact h

theorem Settled.feed (h : Settled s) (chunks : List Chunk) : Settled (s.feed chunks).1 := by
  induction chunks generalizing s with
  | nil => exact h
  | cons c chunks ih => exact ih (h.receive c)

theorem Settled.receive_empty (h : Settled s) :
    s.receive (.bytes []) =
      ({ s with buffer := (frames (normalize s.buffer)).2 }, itemsOf s.buffer) := by
  have hread : Utf8.read [] s.pending = .text [] s.pending := h.pending
  simp only [EventStream.receive, List.append_nil, hread, itemsOf]

/-- A chunk without bytes does nothing just if there is nothing to replace in the text that
waits. -/
theorem Settled.receive_empty_eq_iff (h : Settled s) :
    s.receive (.bytes []) = (s, []) ↔ ¬ ['\r', '\n'] <:+: s.buffer := by
  rw [h.receive_empty, ← normalize_eq_self_iff]
  constructor
  · intro hsame
    obtain ⟨hstate, hitems⟩ := Prod.mk.inj hsame
    have hrest : (frames (normalize s.buffer)).2 = s.buffer := congrArg EventStream.buffer hstate
    have hnone : (frames (normalize s.buffer)).1 = [] := List.map_eq_nil_iff.mp hitems
    have hwhole := framed_append_eq (normalize s.buffer)
    rw [hnone, hrest] at hwhole
    exact hwhole.symm
  · intro hnormal
    rw [itemsOf, hnormal, h.buffer]
    rfl

theorem CleanBreaks.not_infix_after (h : CleanBreaks cs) :
    ¬ ['\r', '\n'] <:+: (after cs p).buffer := by
  intro hreturn
  have hsuffix : (frames (normalize cs)).2 <:+ normalize cs :=
    ⟨_, framed_append_eq (normalize cs)⟩
  exact h.not_infix_normalize (hreturn.trans hsuffix.isInfix)

/-- The text that waits holds a carriage return before a line feed only if two stood there among the
bytes. -/
theorem not_infix_buffer (htext : IsOpenText before.flatten)
    (hreturns : ¬ [0x0D, 0x0D, 0x0A] <:+: before.flatten) :
    ¬ ['\r', '\n'] <:+: (feed {} (before.map .bytes)).1.buffer := by
  obtain ⟨cs, p, hread⟩ := Utf8.isOpenText_iff_read.mp htext
  have hbytes : before.flatten = Utf8.encode cs ++ p :=
    Utf8.eq_encode_append_of_read hread
  have hcs : CleanBreaks cs := CleanBreaks.of_encode (hbytes ▸ hreturns)
  obtain ⟨hstate, -⟩ :=
    @CleanBreaks.feed_after [] cs [] p before hcs Utf8.unfinished_nil hread
  have hbuffer : (feed {} (before.map .bytes)).1 = after cs p := hstate
  rw [hbuffer]
  exact hcs.not_infix_after

/-- A chunk without bytes, wherever it comes, gives the frames that normalizing the text that waits
brings to light. It does nothing just if that text holds no carriage return before a line feed, and
then the items of the body stay as they are. So they do if the bytes before it are those of a text
in which no line feed has two carriage returns in front of it. -/
theorem empty_chunk_normalizes (front rest : List Chunk) :
    let reached := (feed {} front).1
    decode (front ++ .bytes [] :: rest) =
        (feed {} front).2 ++ (itemsOf reached.buffer ++
          { reached with buffer := (frames (normalize reached.buffer)).2 }.run rest) ∧
      (reached.receive (.bytes []) = (reached, []) ↔ ¬ ['\r', '\n'] <:+: reached.buffer) ∧
      (¬ ['\r', '\n'] <:+: reached.buffer →
        decode (front ++ .bytes [] :: rest) = decode (front ++ rest)) ∧
      ∀ before : List (List UInt8), front = before.map .bytes → IsOpenText before.flatten →
        ¬ [0x0D, 0x0D, 0x0A] <:+: before.flatten →
        decode (front ++ .bytes [] :: rest) = decode (front ++ rest) := by
  intro reached
  have hsettled : Settled reached := Settled.start.feed front
  have hquiet : ¬ ['\r', '\n'] <:+: reached.buffer →
      decode (front ++ .bytes [] :: rest) = decode (front ++ rest) := by
    intro hreturn
    rw [decode, decode, run_append, run_append, run, hsettled.receive_empty_eq_iff.mpr hreturn]
    rfl
  refine ⟨?_, hsettled.receive_empty_eq_iff, hquiet, ?_⟩
  · rw [decode, run_append, run, hsettled.receive_empty]
  · intro before hbefore htext hreturns
    apply hquiet
    have hheld := not_infix_buffer htext hreturns
    rwa [← hbefore] at hheld

/-- The chunk comes behind a carriage return, between the bytes of a character, and behind a chunk
that could not be received. -/
theorem empty_chunk_normalizes_open :
    let before : List (List UInt8) := [[0x64, 0x0D, 0x0A, 0x0D, 0x0D, 0xE2], [0x82]]
    let rest : List Chunk := [.failure "reset" .none, .bytes [0xAC, 0x0A]]
    IsOpenText before.flatten ∧ ¬ [0x0D, 0x0D, 0x0A] <:+: before.flatten ∧
      decode (before.map .bytes ++ .bytes [] :: rest) = decode (before.map .bytes ++ rest) := by
  intro before rest
  have htext : IsOpenText before.flatten :=
    Utf8.isOpenText_iff_read.mpr ⟨['d', '\r', '\n', '\r', '\r'], [0xE2, 0x82], by decide⟩
  have hreturns : ¬ [0x0D, 0x0D, 0x0A] <:+: before.flatten := by decide
  obtain ⟨-, -, -, hsame⟩ := empty_chunk_normalizes (before.map .bytes) rest
  exact ⟨htext, hreturns, hsame before rfl htext hreturns⟩

/-- The blank line between two frames ends with two carriage returns and a line feed. A decoder
that reads this in one chunk takes both frames for one, and a chunk without bytes behind it parts
them. -/
theorem empty_chunk_parts_frames :
    let text := "event: ping\ndata: \x7b\x7d\n\r\r\nevent: message_stop\ndata: \x7b\x7d".toList
    Utf8.read [] (Utf8.encode text) = .text text [] ∧
      decode [.bytes (Utf8.encode text)] = [.ok .messageStop] ∧
      decode [.bytes (Utf8.encode text), .bytes []] = [.ok .ping, .ok .messageStop] := by
  intro text
  refine ⟨?_, by decide +kernel, by decide +kernel⟩
  have hread := Utf8.read_encode text Utf8.unfinished_nil
  rwa [List.append_nil] at hread

end Parley.Provider.EventStream
