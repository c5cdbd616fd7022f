import Parley.Proofs.Provider.Corruption
import Parley.Proofs.Provider.EmptyChunks
import Parley.Proofs.Provider.Pulling

/-! # Finitely many items

Every turn of a decoder takes something off what it has to read, so it comes to an end. Its items
are paid for: a frame by the two line feeds of its blank line, and a fault by the chunk that shows
it. The end of the body adds two items at most, one for a character that is cut off and one for a
frame without its blank line, in this order.
-/

namespace Parley.Provider

def Chunk.content : Chunk → List UInt8
  | .bytes bs => bs
  | .failure .. => []

def bytesOf (chunks : List Chunk) : List UInt8 :=
  chunks.flatMap Chunk.content

theorem bytesOf_cons (c : Chunk) (chunks : List Chunk) :
    bytesOf (c :: chunks) = c.content ++ bytesOf chunks :=
  List.flatMap_cons

namespace EventStream

variable {s : EventStream} {cs : List Char} {items : List Item}

theorem count_utf8EncodeChar (c : Char) :
    (String.utf8EncodeChar c).count 0x0A = [c].count '\n' := by
  by_cases hc : c = '\n'
  · subst hc
    rfl
  · have hmem : 0x0A ∉ String.utf8EncodeChar c := by
      intro hmem
      exact hc (Utf8.eq_singleton_of_mem hmem (by decide)).1
    rw [List.count_eq_zero_of_not_mem hmem, List.count_singleton]
    simp [hc]

theorem count_encode (cs : List Char) : (Utf8.encode cs).count 0x0A = cs.count '\n' := by
  induction cs with
  | nil => rfl
  | cons c cs ih =>
    unfold Utf8.encode at ih ⊢
    rw [List.flatMap_cons, List.count_append, count_utf8EncodeChar, ih, ← List.count_append]
    rfl

theorem length_le_length_encode (cs : List Char) : cs.length ≤ (Utf8.encode cs).length := by
  induction cs with
  | nil => exact Nat.le_refl _
  | cons c cs ih =>
    obtain ⟨front, last, he, -⟩ := Utf8.utf8EncodeChar_eq c
    unfold Utf8.encode at ih ⊢
    simp only [List.flatMap_cons, he, List.length_append, List.length_cons]
    omega

theorem count_normalize (cs : List Char) : (normalize cs).count '\n' = cs.count '\n' := by
  fun_induction normalize cs with
  | case1 => rfl
  | case2 rest ih => simpa using ih
  | case3 c rest _ ih => rw [List.count_cons, List.count_cons, ih]

theorem length_le_count_framed (fs : List (List Char)) :
    2 * fs.length ≤ (framed fs).count '\n' := by
  induction fs with
  | nil => exact Nat.zero_le _
  | cons f fs ih =>
    have hsplit : framed (f :: fs) = f ++ ['\n', '\n'] ++ framed fs := rfl
    have hblank : ['\n', '\n'].count '\n' = 2 := rfl
    rw [hsplit, List.count_append, List.count_append, hblank, List.length_cons]
    omega

/-- Two line feeds of a text go into each of its frames. -/
theorem count_frames (cs : List Char) :
    2 * (frames cs).1.length + (frames cs).2.count '\n' ≤ cs.count '\n' := by
  have hle := length_le_count_framed (frames cs).1
  have hwhole := congrArg (List.count '\n') (framed_append_eq cs)
  rw [List.count_append] at hwhole
  omega

/-- The line feeds that a decoder holds. -/
def lineFeeds (s : EventStream) : ℕ :=
  s.buffer.count '\n' + s.pending.count 0x0A

theorem receive_lineFeeds (s : EventStream) (c : Chunk) :
    2 * (s.receive c).2.length + (s.receive c).1.lineFeeds ≤
      s.lineFeeds + c.content.count 0x0A + 2 := by
  unfold lineFeeds Chunk.content
  cases c with
  | bytes bs =>
    cases hread : Utf8.read [] (s.pending ++ bs) with
    | text cs q =>
      have hbytes : s.pending ++ bs = Utf8.encode cs ++ q :=
        Utf8.eq_encode_append_of_read hread
      have hcount := congrArg (List.count 0x0A) hbytes
      have hframes := count_frames (normalize (s.buffer ++ cs))
      rw [List.count_append, List.count_append, count_encode] at hcount
      rw [count_normalize, List.count_append] at hframes
      simp only [receive, hread, List.length_map]
      omega
    | malformed index width =>
      simp only [receive, hread, List.length_singleton, List.count_nil]
      omega
  | failure message cause =>
    simp only [receive, List.length_singleton]
    omega

theorem feed_lineFeeds (s : EventStream) (chunks : List Chunk) :
    2 * (s.feed chunks).2.length + (s.feed chunks).1.lineFeeds ≤
      s.lineFeeds + (bytesOf chunks).count 0x0A + 2 * chunks.length := by
  induction chunks generalizing s with
  | nil => simp [feed, bytesOf]
  | cons c chunks ih =>
    have hfirst := receive_lineFeeds s c
    have hrest := ih (s.receive c).1
    rw [bytesOf_cons, List.count_append]
    simp only [feed, List.length_append, List.length_cons]
    omega

theorem length_feed_le (chunks : List Chunk) :
    (feed {} chunks).2.length ≤ chunks.length + (bytesOf chunks).count 0x0A / 2 := by
  have hle := feed_lineFeeds {} chunks
  have hstart : lineFeeds {} = 0 := rfl
  omega

/-- What the end of the body gives for the bytes that wait. -/
inductive CutOff (s : EventStream) : List Item → Prop where

  | none : s.pending = [] → CutOff s []

  | character : s.pending ≠ [] → CutOff s [.error truncated]

/-- What the end of the body gives for the text that waits: a frame, without the line feed at its
end if there is one. -/
inductive Unended (s : EventStream) : List Item → Prop where

  | blank : Text.trim s.buffer = [] → Unended s []

  | line {f : List Char} : Text.trim s.buffer ≠ [] → s.buffer = f ++ ['\n'] →
      Unended s [Event.ofFrame f]

  | frame : Text.trim s.buffer ≠ [] → s.buffer.getLast? ≠ some '\n' →
      Unended s [Event.ofFrame s.buffer]

theorem frames_eq_nil_cons {c : Char} (h : frames (c :: cs) = ([], c :: cs)) :
    frames cs = ([], cs) ∧ (c = '\n' → cs.head? ≠ some '\n') := by
  have hhead : c = '\n' → cs.head? ≠ some '\n' := by
    rintro rfl hn
    obtain ⟨rest, rfl⟩ := List.head?_eq_some_iff.mp hn
    rw [frames] at h
    cases h
  refine ⟨?_, hhead⟩
  rw [frames_cons hhead] at h
  split at h
  · next hcs =>
    rw [hcs]
    simpa using h
  · cases h

/-- A text without a blank line becomes a frame when one follows it. The last line feed of the text
takes part in that blank line. -/
theorem exists_frame_of_open (h : frames cs = ([], cs)) :
    ∃ f fs after, frames (cs ++ ['\n', '\n']) = (f :: fs, after) ∧
      (cs = f ++ ['\n'] ∨ cs = f ∧ cs.getLast? ≠ some '\n') := by
  induction cs with
  | nil => exact ⟨[], [], [], rfl, .inr ⟨rfl, by simp⟩⟩
  | cons c cs ih =>
    obtain ⟨hcs, hhead⟩ := frames_eq_nil_cons h
    by_cases hlast : c = '\n' ∧ cs = []
    · obtain ⟨rfl, rfl⟩ := hlast
      exact ⟨[], [], ['\n'], rfl, .inl rfl⟩
    · obtain ⟨f, fs, after, hframes, hf⟩ := ih hcs
      have hhead' : c = '\n' → (cs ++ ['\n', '\n']).head? ≠ some '\n' := by
        intro hc
        cases cs with
        | nil => exact absurd ⟨hc, rfl⟩ hlast
        | cons d cs => exact hhead hc
      refine ⟨c :: f, fs, after, ?_, ?_⟩
      · rw [List.cons_append, frames_cons hhead', hframes]
      · rcases hf with rfl | ⟨rfl, hf⟩
        · exact .inl rfl
        · refine .inr ⟨rfl, ?_⟩
          cases cs with
          | nil => simpa using hlast
          | cons d cs => rwa [List.getLast?_cons_cons]

theorem Settled.exists_finish (h : Settled s) :
    ∃ cut last, s.finish = cut ++ last ∧ CutOff s cut ∧ Unended s last := by
  refine ⟨_, _, rfl, ?_, ?_⟩
  · split
    · next hp => exact .none (List.isEmpty_iff.mp hp)
    · next hp => exact .character (fun hnil => hp (List.isEmpty_iff.mpr hnil))
  · split
    · next hblank => exact .blank (List.isEmpty_iff.mp hblank)
    · next hblank =>
      obtain ⟨f, fs, after, hframes, hf⟩ := exists_frame_of_open h.buffer
      have htrim : Text.trim s.buffer ≠ [] := fun hnil => hblank (List.isEmpty_iff.mpr hnil)
      rw [hframes]
      rcases hf with hf | ⟨rfl, hf⟩
      · exact .line htrim hf
      · exact .frame htrim hf

theorem CutOff.length_le (h : CutOff s items) : items.length ≤ 1 := by
  cases h <;> simp

theorem Unended.length_le (h : Unended s items) : items.length ≤ 1 := by
  cases h <;> simp

theorem isTextFault_truncated : IsTextFault (.error truncated) := by
  simp only [IsTextFault, truncated]
  decide

theorem ofFrame_ne_truncated (frame : List Char) : Event.ofFrame frame ≠ .error truncated := by
  intro h
  exact not_isTextFault_ofFrame frame (h ▸ isTextFault_truncated)

theorem Unended.truncated_not_mem (h : Unended s items) : .error truncated ∉ items := by
  cases h with
  | blank => exact List.not_mem_nil
  | line | frame =>
    rw [List.mem_singleton]
    exact (ofFrame_ne_truncated _).symm

theorem truncated_not_mem_receive (s : EventStream) (c : Chunk) :
    .error truncated ∉ (s.receive c).2 := by
  intro hmem
  cases c with
  | bytes bs =>
    cases hread : Utf8.read [] (s.pending ++ bs) with
    | text cs q =>
      simp only [receive, hread, List.mem_map] at hmem
      obtain ⟨frame, -, hframe⟩ := hmem
      exact ofFrame_ne_truncated frame hframe
    | malformed index width => simp [receive, hread, malformed, truncated] at hmem
  | failure message cause => simp [receive, broken, truncated] at hmem

theorem truncated_not_mem_feed (s : EventStream) (chunks : List Chunk) :
    .error truncated ∉ (s.feed chunks).2 := by
  induction chunks generalizing s with
  | nil => exact List.not_mem_nil
  | cons c chunks ih =>
    rw [feed, List.mem_append, not_or]
    exact ⟨truncated_not_mem_receive s c, ih _⟩

namespace Pull

variable {p q : Pull} {item : Option Item} {n : ℕ}

/-- A decoder after some turns, unless it comes to its end before. -/
def turns : ℕ → Pull → Option Pull
  | 0, p => some p
  | n + 1, p =>
    match p.turn with
    | some (_, q) => turns n q
    | none => none

/-- What a decoder has to do: chunks and bytes to read, and bytes and text that wait. -/
def toDo (p : Pull) : ℕ :=
  p.unread.length + (bytesOf p.unread).length + p.state.pending.length + p.state.buffer.length

theorem length_splitFrame? {frame after : List Char} (h : splitFrame? cs = some (frame, after)) :
    after.length < cs.length := by
  have hframes := frames_eq_splitFrame? cs
  rw [h] at hframes
  have hwhole := congrArg List.length (framed_append_eq cs)
  have hafter := congrArg List.length (framed_append_eq after)
  simp only [hframes, framed, List.flatMap_cons, List.length_append,
    List.length_cons] at hwhole hafter
  omega

inductive Turned : Pull → Option Item → Pull → Prop where

  | frame {s : EventStream} {unread : List Chunk} {frame after : List Char} :
      splitFrame? s.buffer = some (frame, after) →
      Turned ⟨s, unread⟩ (some (Event.ofFrame frame)) ⟨{ s with buffer := after }, unread⟩

  | text {s : EventStream} {unread : List Chunk} {bs pending : List UInt8} {cs : List Char} :
      splitFrame? s.buffer = none → Utf8.read [] (s.pending ++ bs) = .text cs pending →
      Turned ⟨s, .bytes bs :: unread⟩ none
        ⟨{ pending, buffer := normalize (s.buffer ++ cs) }, unread⟩

  | malformed {s : EventStream} {unread : List Chunk} {bs : List UInt8} {index width : ℕ} :
      splitFrame? s.buffer = none → Utf8.read [] (s.pending ++ bs) = .malformed index width →
      Turned ⟨s, .bytes bs :: unread⟩ (some (.error (malformed (.invalid index width))))
        ⟨{ s with pending := [] }, unread⟩

  | broken {s : EventStream} {unread : List Chunk} {message : String} {cause : Cause} :
      splitFrame? s.buffer = none →
      Turned ⟨s, .failure message cause :: unread⟩ (some (.error (broken message cause)))
        ⟨s, unread⟩

  | truncated {s : EventStream} : splitFrame? s.buffer = none → s.pending ≠ [] →
      Turned ⟨s, []⟩ (some (.error truncated)) ⟨{ s with pending := [] }, []⟩

  | last {s : EventStream} {frame after : List Char} :
      splitFrame? s.buffer = none → s.pending = [] → Text.trim s.buffer ≠ [] →
      splitFrame? (s.buffer ++ ['\n', '\n']) = some (frame, after) →
      Turned ⟨s, []⟩ (some (Event.ofFrame frame)) ⟨{ s with buffer := [] }, []⟩

theorem turned_of_turn (h : p.turn = some (item, q)) : Turned p item q := by
  obtain ⟨s, unread⟩ := p
  cases hsplit : splitFrame? s.buffer with
  | some split =>
    simp only [turn, hsplit] at h
    cases h
    exact .frame hsplit
  | none =>
    cases unread with
    | nil =>
      simp only [turn, hsplit] at h
      split at h
      · next hp =>
        split at h
        · cases h
        · next hblank =>
          obtain ⟨_, hlast, hq⟩ := Option.map_eq_some_iff.mp h
          cases hq
          rw [List.isEmpty_iff] at hp hblank
          exact .last hsplit hp hblank hlast
      · next hp =>
        cases h
        rw [List.isEmpty_iff] at hp
        exact .truncated hsplit hp
    | cons c unread =>
      cases c with
      | bytes bs =>
        cases hread : Utf8.read [] (s.pending ++ bs) with
        | text cs pending =>
          simp only [turn, hsplit, hread] at h
          cases h
          exact .text hsplit hread
        | malformed index width =>
          simp only [turn, hsplit, hread] at h
          cases h
          exact .malformed hsplit hread
      | failure message cause =>
        simp only [turn, hsplit] at h
        cases h
        exact .broken hsplit

theorem Turned.toDo_lt (h : Turned p item q) : q.toDo < p.toDo := by
  unfold toDo
  cases h with
  | frame hsplit =>
    have hlt := length_splitFrame? hsplit
    dsimp only
    omega
  | @text s unread bs pending cs _ hread =>
    have hbytes := congrArg List.length (Utf8.eq_encode_append_of_read hread)
    have hchars := length_le_length_encode cs
    have hnormal := length_normalize_le (s.buffer ++ cs)
    rw [List.length_append, List.length_append] at hbytes
    rw [List.length_append] at hnormal
    simp only [bytesOf_cons, Chunk.content, List.length_append, List.length_cons]
    omega
  | malformed =>
    simp only [bytesOf_cons, List.length_append, List.length_cons, List.length_nil]
    omega
  | broken =>
    simp only [bytesOf_cons, List.length_append, List.length_cons]
    omega
  | truncated _ hp =>
    have hpos := List.length_pos_iff.mpr hp
    simp only [List.length_nil]
    omega
  | @last s frame after _ _ htrim _ =>
    have hbuffer : s.buffer ≠ [] := by
      intro hnil
      rw [hnil] at htrim
      exact htrim rfl
    have hpos := List.length_pos_iff.mpr hbuffer
    simp only [List.length_nil]
    omega

theorem turns_toDo_le (h : p.turns n = some q) : n + q.toDo ≤ p.toDo := by
  induction n generalizing p with
  | zero =>
    obtain rfl : p = q := Option.some.inj h
    omega
  | succ n ih =>
    rw [turns] at h
    split at h
    · next hturn =>
      have hlt := (turned_of_turn hturn).toDo_lt
      have hle := ih h
      omega
    · cases h

theorem turns_eq_none (chunks : List Chunk) :
    turns (chunks.length + (bytesOf chunks).length + 1) { unread := chunks } = none := by
  rw [Option.eq_none_iff_forall_ne_some]
  intro q hturns
  have hle := turns_toDo_le hturns
  have hstart : toDo { unread := chunks } = chunks.length + (bytesOf chunks).length := rfl
  omega

end Pull

open Pull (Gives Yields)

/-- A decoder comes to its end on all chunks, after no more turns than there are chunks and bytes.
Its items are those of the chunks and, behind these, one at most for a character that is cut off and
one at most for a frame without its blank line, in this order; none but the first of these says that
a character is cut off. They are two more at most than the chunks and half the line feeds. -/
theorem ends_within (chunks : List Chunk) :
    let given := (feed {} chunks).2
    let reached := (feed {} chunks).1
    ∃ cut last, decode chunks = given ++ (cut ++ last) ∧
      (∀ items, Yields { unread := chunks } items ↔ items = decode chunks) ∧
      Gives { unread := chunks } given { state := reached, unread := [] } ∧
      CutOff reached cut ∧ Unended reached last ∧
      .error truncated ∉ given ∧ .error truncated ∉ last ∧
      (decode chunks).length ≤ chunks.length + (bytesOf chunks).count 0x0A / 2 + 2 ∧
      Pull.turns (chunks.length + (bytesOf chunks).length + 1) { unread := chunks } = none := by
  intro given reached
  have hsettled : Settled reached := Settled.start.feed chunks
  obtain ⟨cut, last, hfinish, hcut, hlast⟩ := hsettled.exists_finish
  have hitems : decode chunks = given ++ (cut ++ last) := by
    rw [← hfinish]
    exact decode_eq_feed chunks
  have hgives : Gives { unread := chunks } given { state := reached, unread := [] } := by
    have hfeed := Pull.gives_feed (s := {}) rfl chunks []
    rwa [List.append_nil] at hfeed
  refine ⟨cut, last, hitems, Pull.yields_iff chunks, hgives, hcut, hlast,
    truncated_not_mem_feed {} chunks, hlast.truncated_not_mem, ?_, Pull.turns_eq_none chunks⟩
  have hgiven : given.length ≤ chunks.length + (bytesOf chunks).count 0x0A / 2 :=
    length_feed_le chunks
  have hcut' := hcut.length_le
  have hlast' := hlast.length_le
  rw [hitems, List.length_append, List.length_append]
  omega

example :
    decode [.bytes [0x0A, 0x0A, 0x78, 0xE2], .failure "reset" .none, .bytes [0x82]] =
      [Event.ofFrame [], .error (broken "reset" .none), .error truncated,
        Event.ofFrame ['x']] := by
  decide +kernel

end EventStream

end Parley.Provider
