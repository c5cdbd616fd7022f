import Parley.Proofs.Provider.Lines
import Mathlib.Data.List.TakeWhile

/-! # Frames read back

A body made of frames with a name and data on a line each gives one item for every frame, however
its bytes are cut, and whether or not a blank line stands behind the last of them.
-/

namespace Parley

namespace Text

theorem trim_cons_blank {c : Char} (hc : isBlank c = true) (cs : List Char) :
    trim (c :: cs) = trim cs := by
  rw [trim, List.dropWhile_cons, hc]
  rfl

theorem trim_cons_ne_nil {c : Char} (hc : isBlank c = false) (cs : List Char) :
    trim (c :: cs) ≠ [] := by
  intro h
  rw [trim, List.dropWhile_cons_of_neg (by simp [hc]), trimEnd, List.reverse_eq_nil_iff,
    List.dropWhile_eq_nil_iff] at h
  simp [h c (by simp)] at hc

end Text

namespace Provider

/-- A text that can stand behind a name on a line: no blanks around it and no end of a line. -/
structure IsLine (cs : List Char) : Prop where
  newline : '\n' ∉ cs
  carriageReturn : '\r' ∉ cs
  trim_eq : Text.trim cs = cs

def nameMark : List Char := ['e', 'v', 'e', 'n', 't', ':', ' ']

def dataMark : List Char := ['d', 'a', 't', 'a', ':', ' ']

def frameText (f : List Char × List Char) : List Char :=
  nameMark ++ (f.1 ++ '\n' :: (dataMark ++ f.2))

def bodyText (fs : List (List Char × List Char)) : List Char :=
  fs.flatMap fun f => frameText f ++ ['\n', '\n']

variable {cs ds name data : List Char} {f : List Char × List Char}
  {fs : List (List Char × List Char)}

theorem newline_not_mem_name (h : '\n' ∉ cs) : '\n' ∉ nameMark ++ cs := by
  simpa [nameMark] using h

theorem newline_not_mem_data (h : '\n' ∉ cs) : '\n' ∉ dataMark ++ cs := by
  simpa [dataMark] using h

theorem value?_event (h : Text.trim name = name) :
    value? "event" (nameMark ++ name) = some name := by
  have hvalue : value? "event" (nameMark ++ name) = some (Text.trim (' ' :: name)) := rfl
  rw [hvalue, Text.trim_cons_blank rfl, h]

theorem value?_data (h : Text.trim data = data) :
    value? "data" (dataMark ++ data) = some data := by
  have hvalue : value? "data" (dataMark ++ data) = some (Text.trim (' ' :: data)) := rfl
  rw [hvalue, Text.trim_cons_blank rfl, h]

theorem value?_event_data : value? "event" (dataMark ++ data) = none :=
  rfl

def frameLines (f : List Char × List Char) : List (List Char) :=
  [nameMark ++ f.1, dataMark ++ f.2]

theorem frameLines_ne_nil : frameLines f ≠ [] :=
  List.cons_ne_nil _ _

theorem joined_frameLines : joined (frameLines f) = frameText f := by
  rw [frameLines, joined_cons_cons, joined_singleton, frameText, List.append_assoc]

theorem ended_frameLines : ended (frameLines f) = frameText f ++ ['\n'] := by
  rw [ended_eq_joined frameLines_ne_nil, joined_frameLines]

theorem newline_not_mem_frameLines (hname : IsLine f.1) (hdata : IsLine f.2) :
    ∀ l ∈ frameLines f, '\n' ∉ l := by
  intro l hl
  simp only [frameLines, List.mem_cons, List.not_mem_nil, or_false] at hl
  rcases hl with rfl | rfl
  · exact newline_not_mem_name hname.newline
  · exact newline_not_mem_data hdata.newline

theorem blank_not_mem_frameLines : [] ∉ (frameLines f).tail := by
  simp [frameLines, dataMark]

theorem fields_frameText (hname : IsLine f.1) (hdata : IsLine f.2) :
    fields (frameText f) = (some f.1, some f.2) := by
  rw [fields, ← joined_frameLines,
    lines_joined frameLines_ne_nil (newline_not_mem_frameLines hname hdata), frameLines,
    List.foldl_cons, List.foldl_cons, List.foldl_nil, value?_event hname.trim_eq,
    value?_event_data, value?_data hdata.trim_eq]

theorem ofFrame_frameText (hname : IsLine f.1) (hdata : IsLine f.2) :
    Event.ofFrame (frameText f) = Event.ofFields f.1 f.2 := by
  rw [Event.ofFrame, fields_frameText hname hdata]

namespace EventStream

theorem frames_frameText (hname : IsLine f.1) (hdata : IsLine f.2) (rest : List Char) :
    frames (frameText f ++ '\n' :: '\n' :: rest) =
      (frameText f :: (frames rest).1, (frames rest).2) := by
  have hframe := frames_joined frameLines_ne_nil blank_not_mem_frameLines
    (newline_not_mem_frameLines hname hdata) rest
  rwa [joined_frameLines] at hframe

theorem frames_bodyText (h : ∀ f ∈ fs, IsLine f.1 ∧ IsLine f.2) :
    frames (bodyText fs) = (fs.map frameText, []) := by
  induction fs with
  | nil => rfl
  | cons f fs ih =>
    obtain ⟨hname, hdata⟩ := h f List.mem_cons_self
    have hrest := ih fun g hg => h g (List.mem_cons_of_mem f hg)
    have hbody : bodyText (f :: fs) = frameText f ++ '\n' :: '\n' :: bodyText fs := by
      simp [bodyText]
    rw [hbody, frames_frameText hname hdata, hrest, List.map_cons]

theorem carriageReturn_not_mem_bodyText (h : ∀ f ∈ fs, IsLine f.1 ∧ IsLine f.2) :
    '\r' ∉ bodyText fs := by
  simp only [bodyText, List.mem_flatMap, not_exists, not_and]
  intro f hf
  obtain ⟨hname, hdata⟩ := h f hf
  simp [frameText, nameMark, dataMark, hname.carriageReturn, hdata.carriageReturn]

theorem not_infix_of_not_mem (h : '\r' ∉ cs) : ¬ ['\r', '\n'] <:+: cs :=
  fun hreturn => h (hreturn.subset List.mem_cons_self)

theorem decode_of_frames {gs : List (List Char)} {rest : List Char} {chunks : List (List UInt8)}
    (hreturns : ¬ ['\r', '\n'] <:+: cs) (hframes : frames cs = (gs, rest))
    (hchunks : chunks.flatten = Utf8.encode cs) :
    decode (chunks.map .bytes) =
      gs.map Event.ofFrame ++ ({ buffer := rest } : EventStream).finish := by
  have hread : Utf8.read [] chunks.flatten = .text cs [] := by
    rw [hchunks, Utf8.read_encode_self]
  rw [(cleanBreaks_of_lineFeeds hreturns).decode_eq hread, itemsOf, after,
    normalize_of_not_infix hreturns, hframes]

theorem map_ofFrame_frameText (h : ∀ f ∈ fs, IsLine f.1 ∧ IsLine f.2) :
    (fs.map frameText).map Event.ofFrame = fs.map fun f => Event.ofFields f.1 f.2 := by
  rw [List.map_map]
  refine List.map_congr_left fun f hf => ?_
  obtain ⟨hname, hdata⟩ := h f hf
  exact ofFrame_frameText hname hdata

theorem decode_bodyText (h : ∀ f ∈ fs, IsLine f.1 ∧ IsLine f.2) {chunks : List (List UInt8)}
    (hchunks : chunks.flatten = Utf8.encode (bodyText fs)) :
    decode (chunks.map .bytes) = fs.map fun f => Event.ofFields f.1 f.2 := by
  have hfinish : ({ buffer := [] } : EventStream).finish = [] := rfl
  rw [decode_of_frames (not_infix_of_not_mem (carriageReturn_not_mem_bodyText h))
      (frames_bodyText h) hchunks,
    map_ofFrame_frameText h, hfinish, List.append_nil]

/-- A blank line in two pieces, either of which may be empty. -/
theorem blank_line_cases {ending missing : List Char} (h : ending ++ missing = ['\n', '\n'])
    (hne : missing ≠ []) : ending = [] ∨ ending = ['\n'] := by
  match ending, missing with
  | [], _ => exact .inl rfl
  | [_], [_] => exact .inr (by simp_all)
  | [_, _], [] => exact absurd rfl hne

theorem frames_frameText_open {ending : List Char} (hname : IsLine f.1) (hdata : IsLine f.2)
    (hending : ending = [] ∨ ending = ['\n']) :
    frames (frameText f ++ ending) = ([], frameText f ++ ending) := by
  have hlines := newline_not_mem_frameLines hname hdata
  rcases hending with rfl | rfl
  · rw [List.append_nil, ← joined_frameLines]
    exact frames_joined_open blank_not_mem_frameLines hlines
  · rw [← ended_frameLines]
    exact frames_ended_open blank_not_mem_frameLines hlines

theorem frames_bodyText_append (h : ∀ f ∈ fs, IsLine f.1 ∧ IsLine f.2) (rest : List Char) :
    frames (bodyText fs ++ rest) = (fs.map frameText ++ (frames rest).1, (frames rest).2) := by
  have hframes := frames_framed_append (bodyText fs) rest
  have hframed : framed (fs.map frameText) = bodyText fs := by
    simp [framed, bodyText, List.flatMap_map]
  rwa [frames_bodyText h, hframed] at hframes

theorem finish_frameText {ending : List Char} (hname : IsLine f.1) (hdata : IsLine f.2)
    (hending : ending = [] ∨ ending = ['\n']) :
    ({ buffer := frameText f ++ ending } : EventStream).finish = [Event.ofFields f.1 f.2] := by
  have hblank : frameText f ++ ending ++ ['\n', '\n'] = frameText f ++ '\n' :: '\n' :: ending := by
    rcases hending with rfl | rfl <;> simp
  have htrim : (Text.trim (frameText f ++ ending)).isEmpty = false :=
    List.isEmpty_eq_false_iff.mpr (Text.trim_cons_ne_nil (by decide) _)
  simp only [finish, htrim, hblank, frames_frameText hname hdata]
  simpa using ofFrame_frameText hname hdata

/-- A body of frames gives an item for each of them, also if the blank line of the last frame is
missing or cut short. -/
theorem decode_openBody {whole missing : List Char} (h : ∀ f ∈ fs, IsLine f.1 ∧ IsLine f.2)
    (hmissing : missing <:+ ['\n', '\n']) (hwhole : whole ++ missing = bodyText fs)
    {chunks : List (List UInt8)} (hchunks : chunks.flatten = Utf8.encode whole) :
    decode (chunks.map .bytes) = fs.map fun f => Event.ofFields f.1 f.2 := by
  by_cases hne : missing = []
  · rw [hne, List.append_nil] at hwhole
    exact decode_bodyText h (hwhole ▸ hchunks)
  · obtain ⟨ending, hending⟩ := hmissing
    have hcases := blank_line_cases hending hne
    rcases List.eq_nil_or_concat fs with rfl | ⟨gs, g, hfs⟩
    · exact absurd (List.append_eq_nil_iff.mp hwhole).2 hne
    rw [List.concat_eq_append] at hfs
    subst hfs
    have hbody : bodyText (gs ++ [g]) = bodyText gs ++ (frameText g ++ ending) ++ missing := by
      simp [bodyText, ← hending]
    obtain rfl : whole = bodyText gs ++ (frameText g ++ ending) :=
      List.append_cancel_right (hwhole.trans hbody)
    obtain ⟨hname, hdata⟩ := h g (by simp)
    have hgs : ∀ f ∈ gs, IsLine f.1 ∧ IsLine f.2 := fun f hf => h f (by simp [hf])
    have hreturn : '\r' ∉ bodyText gs ++ (frameText g ++ ending) := by
      have hall := carriageReturn_not_mem_bodyText h
      rw [← hwhole] at hall
      exact fun hr => hall (List.mem_append_left _ hr)
    have hframes := frames_bodyText_append hgs (frameText g ++ ending)
    rw [frames_frameText_open hname hdata hcases, List.append_nil] at hframes
    rw [decode_of_frames (not_infix_of_not_mem hreturn) hframes hchunks, map_ofFrame_frameText hgs,
      finish_frameText hname hdata hcases, List.map_append]
    rfl

/-- What a frame gives whose name asks for JSON that its data are not. -/
inductive Spoils (f : List Char × List Char) : Item → Prop where
  | delta : f.1 = "content_block_delta".toList ∨ f.1 = "message_delta".toList →
      Delta.ofData? f.2 = none → Spoils f (.error .malformedJson)
  | error : f.1 = "error".toList → Event.detail? f.2 = none →
      Spoils f (.ok (.error none (String.ofList f.2)))

theorem Spoils.ofFields_eq {item : Item} (h : Spoils f item) : Event.ofFields f.1 f.2 = item := by
  obtain ⟨name, data⟩ := f
  cases h with
  | delta hname hdata =>
    rcases hname with rfl | rfl <;> simp_all [Event.ofFields]
  | error hname hdata =>
    obtain rfl := hname
    simp_all [Event.ofFields]

/-- Frames with a name and data are read back, one item for each and nothing else, whatever the data
hold and however the bytes are cut; the last blank line may be missing. Data that are no JSON spoil
no other frame. -/
theorem frames_read_back {whole missing : List Char} {chunks : List (List UInt8)}
    (h : ∀ f ∈ fs, IsLine f.1 ∧ IsLine f.2) (hmissing : missing <:+ ['\n', '\n'])
    (hwhole : whole ++ missing = bodyText fs) (hchunks : chunks.flatten = Utf8.encode whole) :
    decode (chunks.map .bytes) = (fs.map fun f => Event.ofFields f.1 f.2) ∧
      ∀ before f after item, fs = before ++ f :: after → Spoils f item →
        decode (chunks.map .bytes) = (before.map fun f => Event.ofFields f.1 f.2) ++
          item :: after.map fun f => Event.ofFields f.1 f.2 := by
  have hitems := decode_openBody h hmissing hwhole hchunks
  refine ⟨hitems, fun before f after item hfs hspoils => ?_⟩
  rw [hitems, hfs, List.map_append, List.map_cons, hspoils.ofFields_eq]

/-- The data hold marks of their own and the second frame no JSON; the bytes are cut within a
character, and the last blank line is missing. -/
theorem frames_read_back_spoiled :
    let fs : List (List Char × List Char) :=
      [("content_block_delta".toList,
          "\x7b\"delta\":\x7b\"type\":\"text_delta\",\"text\":\"event: €\"\x7d\x7d".toList),
        ("message_delta".toList, "data: \x7b".toList), ("message_stop".toList, [])]
    let whole := (bodyText fs).dropLast
    let bytes := Utf8.encode whole
    let chunks := [bytes.take 80, [], bytes.drop 80]
    (∀ f ∈ fs, IsLine f.1 ∧ IsLine f.2) ∧ whole ++ ['\n'] = bodyText fs ∧
      decode (chunks.map .bytes) =
        [.ok (.textDelta "event: €"), .error .malformedJson, .ok .messageStop] := by
  intro fs whole bytes chunks
  have hlines : ∀ f ∈ fs, IsLine f.1 ∧ IsLine f.2 := by
    have hall : ∀ f ∈ fs, ('\n' ∉ f.1 ∧ '\r' ∉ f.1 ∧ Text.trim f.1 = f.1) ∧
        '\n' ∉ f.2 ∧ '\r' ∉ f.2 ∧ Text.trim f.2 = f.2 := by decide +kernel
    intro f hf
    obtain ⟨⟨hn, hr, ht⟩, hn', hr', ht'⟩ := hall f hf
    exact ⟨⟨hn, hr, ht⟩, hn', hr', ht'⟩
  have hwhole : whole ++ ['\n'] = bodyText fs := by decide +kernel
  have hchunks : chunks.flatten = Utf8.encode whole := by
    simp only [chunks, List.flatten_cons, List.flatten_nil, List.nil_append, List.append_nil,
      List.take_append_drop, bytes]
  have hspoils : Spoils ("message_delta".toList, "data: \x7b".toList) (.error .malformedJson) :=
    .delta (.inr rfl) (by decide +kernel)
  obtain ⟨-, hitems⟩ := frames_read_back hlines ⟨['\n'], rfl⟩ hwhole hchunks
  have hfirst : Event.ofFields "content_block_delta".toList
      "\x7b\"delta\":\x7b\"type\":\"text_delta\",\"text\":\"event: €\"\x7d\x7d".toList =
      .ok (.textDelta "event: €") := by decide +kernel
  refine ⟨hlines, hwhole, (hitems [_] _ [_] _ rfl hspoils).trans ?_⟩
  rw [List.map_singleton, List.map_singleton, hfirst]
  rfl

end EventStream

end Provider

end Parley
