import Parley.Proofs.Provider.Frames
import Parley.Proofs.Text.Completion

/-! # Bytes that are no text

A decoder gives the events of the frames that it holds before it looks at the next chunk. Bytes that
are no text take the whole of their chunk with them, and the bytes that wait for it: what comes in
the chunks before it is safe, and what comes in the same chunk is lost.
-/

namespace Parley.Provider.EventStream

open Utf8 (Unfinished IsOpenText)

variable {f cs ds : List Char} {p q bs : List UInt8} {s : EventStream} {items : List Item}
  {gs hs : List (List Char)} {before : List (List UInt8)}

/-- The item says that bytes are no text. -/
def IsTextFault : Item → Prop
  | .error (.serialization message _) => "Invalid UTF-8 in stream: ".toList <+: message.toList
  | _ => False

theorem isTextFault_malformed (fault : Utf8.Fault) : IsTextFault (.error (malformed fault)) := by
  simp only [IsTextFault, malformed, String.toList_append]
  exact List.prefix_append ..

theorem not_isTextFault_malformedJson : ¬ IsTextFault (.error .malformedJson) := by
  change ¬ "Invalid UTF-8 in stream: ".toList <+: "JSON error: malformed document".toList
  decide

theorem not_isTextFault_ofFields (name data : List Char) :
    ¬ IsTextFault (Event.ofFields name data) := by
  rw [Event.ofFields]
  -- an event, or data that should be JSON
  split <;> try split
  all_goals first | exact not_isTextFault_malformedJson | exact id

theorem not_isTextFault_ofFrame (frame : List Char) : ¬ IsTextFault (Event.ofFrame frame) := by
  rw [Event.ofFrame]
  split
  · exact not_isTextFault_ofFields _ _
  · simp [IsTextFault]

theorem framed_append (gs hs : List (List Char)) : framed (gs ++ hs) = framed gs ++ framed hs :=
  List.flatMap_append

theorem framed_mono (h : hs <+: gs) : framed hs <+: framed gs := by
  obtain ⟨rest, rfl⟩ := h
  rw [framed_append]
  exact List.prefix_append ..

theorem framed_frames (cs : List Char) : framed (frames cs).1 <+: cs :=
  ⟨_, framed_append_eq cs⟩

theorem prefix_frames_iff (hframes : hs <+: (frames ds).1) :
    hs <+: (frames cs).1 ↔ framed hs <+: cs := by
  constructor
  · intro h
    exact (framed_mono h).trans (framed_frames cs)
  · rintro ⟨rest, rfl⟩
    rw [frames_first_append hframes]
    exact List.prefix_append ..

theorem normalize_open (hreturns : ¬ ['\r', '\n'] <:+: cs ++ ds) :
    normalize ((frames cs).2 ++ ds) = (frames cs).2 ++ ds := by
  refine normalize_of_not_infix fun h => hreturns (h.trans ⟨framed (frames cs).1, [], ?_⟩)
  rw [List.append_nil, ← List.append_assoc, framed_append_eq]

/-- The decoder has read the text `cs` and the bytes `p` of an unfinished character, and has given
the items. They are those of the text as long as it is a beginning of `f`, and begin with those of
`f` when it goes on. -/
structure Follows (f cs : List Char) (p : List UInt8) (items : List Item) (s : EventStream) :
    Prop where
  pending : s.pending = p
  unfinished : Unfinished p
  within : cs <+: f → s.buffer = (frames cs).2 ∧ items = (frames cs).1.map Event.ofFrame
  beyond : f <+: cs → (frames f).1.map Event.ofFrame <+: items
  sound : ∀ item ∈ items, ¬ IsTextFault item

theorem Follows.start (f : List Char) : Follows f [] [] [] {} where
  pending := rfl
  unfinished := Utf8.unfinished_nil
  within := fun _ => ⟨rfl, rfl⟩
  beyond := fun h => by rw [List.prefix_nil.mp h]; exact List.prefix_refl _
  sound := by simp

theorem Follows.read_pending (h : Follows f cs p items s) (hread : Utf8.read p bs = .text ds q) :
    Utf8.read [] (s.pending ++ bs) = .text ds q := by
  rw [h.pending]
  exact h.unfinished.read_append.mpr hread

theorem Follows.receive_within (hreturns : ¬ ['\r', '\n'] <:+: f) (h : Follows f cs p items s)
    (hread : Utf8.read p bs = .text ds q) (hf : cs ++ ds <+: f) :
    (s.receive (.bytes bs)).1.buffer = (frames (cs ++ ds)).2 ∧
      items ++ (s.receive (.bytes bs)).2 = (frames (cs ++ ds)).1.map Event.ofFrame := by
  obtain ⟨hbuffer, hitems⟩ := h.within ((List.prefix_append cs ds).trans hf)
  have hnormal := normalize_open fun hr => hreturns (hr.trans hf.isInfix)
  rw [frames_append_eq, hitems, List.map_append]
  simp only [EventStream.receive, h.read_pending hread, hbuffer, hnormal, and_self]

theorem Follows.receive_beyond (hreturns : ¬ ['\r', '\n'] <:+: f) (hcomplete : (frames f).2 = [])
    (h : Follows f cs p items s) (hread : Utf8.read p bs = .text ds q) (hcs : cs <+: f)
    (hf : f <+: cs ++ ds) :
    (frames f).1.map Event.ofFrame <+: items ++ (s.receive (.bytes bs)).2 := by
  obtain ⟨hbuffer, hitems⟩ := h.within hcs
  obtain ⟨rest, rfl⟩ := hcs
  obtain ⟨more, rfl⟩ := (List.prefix_append_right_inj cs).mp hf
  -- what is left of `f` is made of complete frames
  rw [frames_append_eq] at hcomplete ⊢
  have hrest : framed (frames ((frames cs).2 ++ rest)).1 = (frames cs).2 ++ rest := by
    have hwhole := framed_append_eq ((frames cs).2 ++ rest)
    rwa [hcomplete, List.append_nil] at hwhole
  have hnormal : normalize ((frames cs).2 ++ (rest ++ more)) =
      framed (frames ((frames cs).2 ++ rest)).1 ++ normalize more := by
    rw [← List.append_assoc, ← normalize_framed_append (normalize_open hreturns), hrest]
  rw [hitems, List.map_append, List.prefix_append_right_inj]
  simp only [EventStream.receive, h.read_pending hread, hbuffer, hnormal, frames_framed_append,
    List.map_append]
  exact List.prefix_append ..

theorem Follows.receive (hreturns : ¬ ['\r', '\n'] <:+: f) (hcomplete : (frames f).2 = [])
    (h : Follows f cs p items s) (hread : Utf8.read p bs = .text ds q) :
    Follows f (cs ++ ds) q (items ++ (s.receive (.bytes bs)).2) (s.receive (.bytes bs)).1 := by
  have hbytes := h.read_pending hread
  constructor
  case pending => simp [EventStream.receive, hbytes]
  case unfinished => exact Utf8.unfinished_of_read h.unfinished hread
  case within => exact h.receive_within hreturns hread
  case beyond =>
    intro hf
    rcases List.prefix_or_prefix_of_prefix (List.prefix_append cs ds) hf with hcs | hcs
    · exact h.receive_beyond hreturns hcomplete hread hcs hf
    · exact (h.beyond hcs).trans (List.prefix_append ..)
  case sound =>
    intro item hitem
    rcases List.mem_append.mp hitem with hitem | hitem
    · exact h.sound item hitem
    · simp only [EventStream.receive, hbytes, List.mem_map] at hitem
      obtain ⟨frame, -, rfl⟩ := hitem
      exact not_isTextFault_ofFrame frame

theorem Follows.feed (hreturns : ¬ ['\r', '\n'] <:+: f) (hcomplete : (frames f).2 = [])
    (h : Follows f cs p items s) (hread : Utf8.read p before.flatten = .text ds q) :
    Follows f (cs ++ ds) q (items ++ (s.feed (before.map .bytes)).2)
      (s.feed (before.map .bytes)).1 := by
  induction before generalizing s cs p items ds with
  | nil =>
    obtain ⟨rfl, rfl⟩ := Utf8.Reading.text.inj hread
    simpa [EventStream.feed] using h
  | cons bs before ih =>
    rw [List.flatten_cons, Utf8.read_append_iff] at hread
    obtain ⟨ds, p', es, hds, hes, rfl⟩ := hread
    rw [List.map_cons, EventStream.feed, ← List.append_assoc, ← List.append_assoc]
    exact ih (h.receive hreturns hcomplete hds) hes

theorem exists_bad_chunk {front : List UInt8} {chunks : List (List UInt8)}
    (hfront : IsOpenText front) (hall : ¬ IsOpenText (front ++ chunks.flatten)) :
    ∃ before bad rest, chunks = before ++ bad :: rest ∧ IsOpenText (front ++ before.flatten) ∧
      ¬ IsOpenText (front ++ before.flatten ++ bad) := by
  induction chunks generalizing front with
  | nil => exact absurd (by simpa using hfront) hall
  | cons bs chunks ih =>
    by_cases hbs : IsOpenText (front ++ bs)
    · rw [List.flatten_cons, ← List.append_assoc] at hall
      obtain ⟨before, bad, rest, rfl, hbefore, hbad⟩ := ih hbs hall
      refine ⟨bs :: before, bad, rest, rfl, ?_, ?_⟩
      · simpa using hbefore
      · simpa using hbad
    · exact ⟨[], bs, chunks, rfl, by simpa using hfront, by simpa using hbs⟩

theorem map_prefix_map_iff {ks : List (List Char)} (hhs : hs <+: gs) (hks : ks <+: gs) :
    hs.map Event.ofFrame <+: ks.map Event.ofFrame ↔ hs <+: ks := by
  constructor
  · intro h
    exact List.prefix_of_prefix_length_le hhs hks (by simpa using h.length_le)
  · exact fun h => h.map Event.ofFrame

theorem Follows.comparable (h : Follows f cs p items s) (hcs : cs <+: f ∨ f <+: cs) :
    items <+: (frames f).1.map Event.ofFrame ∨ (frames f).1.map Event.ofFrame <+: items := by
  rcases hcs with hcs | hcs
  · rw [(h.within hcs).2]
    exact .inl ((frames_mono hcs).map Event.ofFrame)
  · exact .inr (h.beyond hcs)

/-- The events of `f` that have come are those of the frames that are complete. -/
theorem Follows.given_iff (h : Follows f cs p items s) (hcs : cs <+: f ∨ f <+: cs)
    (hhs : hs <+: (frames f).1) : hs.map Event.ofFrame <+: items ↔ framed hs <+: cs := by
  rcases hcs with hcs | hcs
  · rw [← prefix_frames_iff hhs, (h.within hcs).2, map_prefix_map_iff hhs (frames_mono hcs)]
  · have hread : framed hs <+: cs := (framed_mono hhs).trans ((framed_frames f).trans hcs)
    exact ⟨fun _ => hread, fun _ => (hhs.map Event.ofFrame).trans (h.beyond hcs)⟩

/-- The items of the chunks before the one that spoils the text come before the first fault. -/
theorem exists_fault {bad : List UInt8} (hreturns : ¬ ['\r', '\n'] <:+: f)
    (hcomplete : (frames f).2 = []) (hread : Utf8.read [] before.flatten = .text cs p)
    (hbad : ¬ IsOpenText (before.flatten ++ bad)) (rest : List (List UInt8)) :
    ∃ items state fault later, Follows f cs p items state ∧
      decode ((before ++ bad :: rest).map .bytes) =
        items ++ .error (malformed fault) :: later := by
  have hstate := (Follows.start f).feed hreturns hcomplete hread
  obtain ⟨index, width, hfault⟩ := Utf8.exists_malformed hread hbad
  rw [← hstate.pending] at hfault
  let reached := (feed {} (before.map .bytes)).1
  refine ⟨_, _, .invalid index width, { reached with pending := [] }.run (rest.map .bytes),
    hstate, ?_⟩
  rw [decode, List.map_append, List.map_cons, run_append, EventStream.run]
  simp only [EventStream.receive, hfault, reached]
  rfl

/-- Bytes that begin no text spoil one chunk. The events of the frames before these bytes come
first, in order, as far as the frames are complete in the chunks before that one. So all of them come
first just if the whole text came in chunks before it. The lines of the frames end with line feeds
alone. -/
theorem events_before_fault {g : List UInt8} {chunks : List (List UInt8)}
    (hreturns : ¬ ['\r', '\n'] <:+: f) (hframes : frames f = (gs, []))
    (hg : ∀ more ds, g ++ more ≠ Utf8.encode ds) (hchunks : chunks.flatten = Utf8.encode f ++ g) :
    ∃ before bad rest items fault later, chunks = before ++ bad :: rest ∧
      IsOpenText before.flatten ∧ ¬ IsOpenText (before.flatten ++ bad) ∧
      decode (chunks.map .bytes) = items ++ .error (malformed fault) :: later ∧
      IsTextFault (.error (malformed fault)) ∧ (∀ item ∈ items, ¬ IsTextFault item) ∧
      (items <+: gs.map Event.ofFrame ∨ gs.map Event.ofFrame <+: items) ∧
      (∀ hs, hs <+: gs →
        (hs.map Event.ofFrame <+: items ↔ Utf8.encode (framed hs) <+: before.flatten)) ∧
      (gs.map Event.ofFrame <+: items ↔ Utf8.encode f <+: before.flatten) := by
  have hwhole : ¬ IsOpenText ([] ++ chunks.flatten) := by
    rw [List.nil_append, hchunks]
    exact Utf8.not_isOpenText_encode_append hg
  obtain ⟨before, bad, rest, rfl, hbefore, hbad⟩ :=
    exists_bad_chunk (Utf8.isOpenText_iff_read.mpr ⟨[], [], rfl⟩) hwhole
  rw [List.nil_append] at hbefore hbad
  obtain ⟨cs, p, hread⟩ := Utf8.isOpenText_iff_read.mp hbefore
  obtain ⟨items, state, fault, later, hstate, hdecode⟩ :=
    exists_fault hreturns (by rw [hframes]) hread hbad rest
  have hbytes : before.flatten = Utf8.encode cs ++ p :=
    Utf8.append_eq_of_read Utf8.unfinished_nil hread
  have hcs : cs <+: f ∨ f <+: cs := by
    have hbefore : Utf8.encode cs <+: (before ++ bad :: rest).flatten := by
      rw [List.flatten_append, hbytes, List.append_assoc]
      exact List.prefix_append ..
    rw [hchunks] at hbefore
    exact Utf8.prefix_or_prefix_of_encode hbefore (List.prefix_append ..)
  have hgiven (hs : List (List Char)) (hhs : hs <+: gs) :
      hs.map Event.ofFrame <+: items ↔ Utf8.encode (framed hs) <+: before.flatten := by
    rw [hbytes, Utf8.encode_prefix_iff hstate.unfinished]
    exact hstate.given_iff hcs (by rwa [hframes])
  have hall : framed gs = f := by
    simpa [hframes] using framed_append_eq f
  refine ⟨before, bad, rest, items, fault, later, rfl, hbefore, hbad, hdecode,
    isTextFault_malformed fault, hstate.sound, ?_, hgiven, ?_⟩
  · simpa [hframes] using hstate.comparable hcs
  · simpa [hall] using hgiven gs (List.prefix_refl gs)

theorem not_encode_of_stray (more : List UInt8) (ds : List Char) :
    [0xFF] ++ more ≠ Utf8.encode ds := by
  intro h
  have hread := Utf8.read_encode_self ds
  rw [← h] at hread
  cases hread

/-- Two frames are cut within the second, which comes in one chunk with a byte that is no text. -/
theorem events_before_fault_ping :
    let frame := "event: ping\ndata: \x7b\x7d".toList
    let f := framed [frame, frame]
    let bytes := Utf8.encode f ++ [0xFF]
    let chunks := [bytes.take 30, bytes.drop 30]
    ¬ ['\r', '\n'] <:+: f ∧ frames f = ([frame, frame], []) ∧ (∀ more ds, [0xFF] ++ more ≠ Utf8.encode ds) ∧
      chunks.flatten = Utf8.encode f ++ [0xFF] ∧
      ∃ before bad rest items fault later, chunks = before ++ bad :: rest ∧
        IsOpenText before.flatten ∧ ¬ IsOpenText (before.flatten ++ bad) ∧
        decode (chunks.map .bytes) = items ++ .error (malformed fault) :: later ∧
        IsTextFault (.error (malformed fault)) ∧ (∀ item ∈ items, ¬ IsTextFault item) ∧
        (items <+: [frame, frame].map Event.ofFrame ∨
          [frame, frame].map Event.ofFrame <+: items) ∧
        (∀ hs, hs <+: [frame, frame] →
          (hs.map Event.ofFrame <+: items ↔ Utf8.encode (framed hs) <+: before.flatten)) ∧
        ([frame, frame].map Event.ofFrame <+: items ↔ Utf8.encode f <+: before.flatten) := by
  intro frame f bytes chunks
  have hreturns : ¬ ['\r', '\n'] <:+: f := by decide +kernel
  have hframes : frames f = ([frame, frame], []) := by decide +kernel
  have hchunks : chunks.flatten = Utf8.encode f ++ [0xFF] := by
    simp only [chunks, List.flatten_cons, List.flatten_nil, List.append_nil, List.take_append_drop,
      bytes]
  exact ⟨hreturns, hframes, not_encode_of_stray, hchunks,
    events_before_fault hreturns hframes not_encode_of_stray hchunks⟩

/-- In one chunk with a byte that is no text an event is lost. It is not if the byte comes in a
chunk of its own. -/
theorem event_lost_with_chunk :
    let frame := "event: ping\ndata: \x7b\x7d".toList
    let f := framed [frame]
    ¬ ['\r', '\n'] <:+: f ∧ frames f = ([frame], []) ∧ Event.ofFrame frame = .ok .ping ∧
      (∀ more ds, [0xFF] ++ more ≠ Utf8.encode ds) ∧
      decode [.bytes (Utf8.encode f ++ [0xFF])] = [.error (malformed (.invalid 22 1))] ∧
      (¬ ∃ items fault later, decode [.bytes (Utf8.encode f ++ [0xFF])] = items ++ fault :: later ∧
        IsTextFault fault ∧ [.ok .ping] <+: items) ∧
      decode [.bytes (Utf8.encode f), .bytes [0xFF]] =
        [.ok .ping, .error (malformed (.invalid 0 1))] := by
  intro frame f
  have hone : decode [.bytes (Utf8.encode f ++ [0xFF])] =
      [.error (malformed (.invalid 22 1))] := by decide +kernel
  refine ⟨by decide +kernel, by decide +kernel, by decide +kernel, not_encode_of_stray, hone, ?_,
    by decide +kernel⟩
  rintro ⟨items, fault, later, hitems, -, hping⟩
  rw [hone, List.singleton_eq_append_iff] at hitems
  rcases hitems with ⟨rfl, -⟩ | ⟨-, hnil⟩
  · cases List.prefix_nil.mp hping
  · cases hnil

end Parley.Provider.EventStream
