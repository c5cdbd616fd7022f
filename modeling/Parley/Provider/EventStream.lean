import Parley.Provider.Event
import Parley.Text.Utf8

/-! # Event streams

The body of a streaming response arrives in chunks of bytes that may be cut anywhere. The decoder
keeps the bytes of an unfinished character and the text of an unfinished frame. A blank line ends
a frame, and so does the end of the body.
-/

namespace Parley.Provider

inductive Chunk where
  | bytes (bs : List UInt8)
  | failure (message : String) (cause : Cause)
  deriving DecidableEq, Repr

/-- What a decoder gives: an event, or why there is none. -/
abbrev Item := Except Error Event

structure EventStream where
  pending : List UInt8 := []
  buffer : List Char := []
  deriving DecidableEq, Repr

namespace EventStream

def normalize : List Char → List Char
  | [] => []
  | '\r' :: '\n' :: rest => '\n' :: normalize rest
  | c :: rest => c :: normalize rest

/-- The frames that a blank line ends, and the text after them. -/
def frames : List Char → List (List Char) × List Char
  | [] => ([], [])
  | '\n' :: '\n' :: rest =>
    let (fs, after) := frames rest
    ([] :: fs, after)
  | c :: rest =>
    match frames rest with
    | ([], after) => ([], c :: after)
    | (f :: fs, after) => ((c :: f) :: fs, after)

theorem flatMap_frames_append (cs : List Char) :
    (frames cs).1.flatMap (· ++ ['\n', '\n']) ++ (frames cs).2 = cs := by
  fun_induction frames cs with
  | case1 => rfl
  | case2 rest fs after hf ih => rw [hf] at ih; simpa using ih
  | case3 c rest _ after hf ih => rw [hf] at ih; simpa using ih
  | case4 c rest _ f fs after hf ih => rw [hf] at ih; simpa using ih

/-- The text after the frames holds no blank line. -/
theorem frames_snd_frames (cs : List Char) : frames (frames cs).2 = ([], (frames cs).2) := by
  fun_induction frames cs with
  | case1 => rfl
  | case2 rest fs after hf ih => rw [hf] at ih; exact ih
  | case3 c rest hc after hf ih =>
    rw [hf] at ih
    have hr : after = rest := by simpa [hf] using flatMap_frames_append rest
    subst hr
    rw [frames.eq_def]
    split <;> simp_all
  | case4 c rest _ f fs after hf ih => rw [hf] at ih; exact ih

def malformed (fault : Utf8.Fault) : Error :=
  .serialization ("Invalid UTF-8 in stream: " ++ fault.message) (.text fault.message)

def truncated : Error :=
  .serialization "Invalid UTF-8 in stream: truncated character at end of stream" .none

/-- A chunk that could not be received. -/
def broken (message : String) (cause : Cause) : Error :=
  .stream ("Error in HTTP stream: " ++ message) cause

/-- Receives a chunk. Bytes that form no text are dropped with all bytes that wait for them. -/
def receive (s : EventStream) : Chunk → EventStream × List Item
  | .bytes bs =>
    match Utf8.read [] (s.pending ++ bs) with
    | .text cs pending =>
      let (fs, buffer) := frames (normalize (s.buffer ++ cs))
      ({ pending, buffer }, fs.map Event.ofFrame)
    | .malformed index width =>
      ({ s with pending := [] }, [.error (malformed (.invalid index width))])
  | .failure message cause => (s, [.error (broken message cause)])

/-- The end of the body. A last frame needs no blank line. -/
def finish (s : EventStream) : List Item :=
  (if s.pending.isEmpty then [] else [.error truncated]) ++
    if (Text.trim s.buffer).isEmpty then []
    else ((frames (s.buffer ++ ['\n', '\n'])).1.take 1).map Event.ofFrame

def run (s : EventStream) : List Chunk → List Item
  | [] => s.finish
  | c :: rest => (s.receive c).2 ++ run (s.receive c).1 rest

def decode (chunks : List Chunk) : List Item :=
  run {} chunks

end EventStream

end Parley.Provider
