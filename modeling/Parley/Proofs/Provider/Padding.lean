import Parley.Proofs.Provider.Frames

/-! # Padding between frames

An event stream may hold blank lines and comments between its frames. The decoder knows no padding:
it looks for blank lines alone. A line of padding in front of a frame becomes part of the frame,
where it does no harm. But a second blank line, or one behind a comment, ends a frame of its own,
which has neither a name nor data.
-/

namespace Parley.Provider

/-- A line that is ended by a line feed alone. -/
structure IsSingle (l : List Char) : Prop where
  newline : '\n' ∉ l
  ending : l.getLast? ≠ some '\r'

/-- A blank line or a comment. -/
def IsPadding (l : List Char) : Prop :=
  l = [] ∨ l.head? = some ':'

instance (l : List Char) : Decidable (IsSingle l) :=
  decidable_of_iff ('\n' ∉ l ∧ l.getLast? ≠ some '\r')
    ⟨fun h => ⟨h.1, h.2⟩, fun h => ⟨h.newline, h.ending⟩⟩

instance (l : List Char) : Decidable (IsPadding l) :=
  inferInstanceAs (Decidable (l = [] ∨ l.head? = some ':'))

variable {l cs ds : List Char} {ls ms held padding frame : List (List Char)}

def readLine (found : Option (List Char) × Option (List Char)) (line : List Char) :
    Option (List Char) × Option (List Char) :=
  match value? "event" line with
  | some v => (some v, found.2)
  | none =>
    match value? "data" line with
    | some v => (found.1, some v)
    | none => found

theorem fields_joined (hne : ls ≠ []) (h : ∀ l ∈ ls, '\n' ∉ l) :
    fields (joined ls) = ls.foldl readLine (none, none) := by
  rw [fields, lines_joined hne h]
  rfl

theorem readLine_padding (h : IsPadding l) (found : Option (List Char) × Option (List Char)) :
    readLine found l = found := by
  rcases h with rfl | h
  · rfl
  · obtain ⟨rest, rfl⟩ := List.head?_eq_some_iff.mp h
    rfl

theorem foldl_readLine_padding (h : ∀ l ∈ ls, IsPadding l)
    (found : Option (List Char) × Option (List Char)) : ls.foldl readLine found = found := by
  induction ls with
  | nil => rfl
  | cons l ls ih =>
    rw [List.foldl_cons, readLine_padding (h l List.mem_cons_self)]
    exact ih fun m hm => h m (List.mem_cons_of_mem l hm)

theorem fields_padding_append (hpadding : ∀ l ∈ padding, IsPadding l) (hne : frame ≠ [])
    (h : ∀ l ∈ padding ++ frame, '\n' ∉ l) :
    fields (joined (padding ++ frame)) = fields (joined frame) := by
  have hframe : ∀ l ∈ frame, '\n' ∉ l := fun l hl => h l (List.mem_append_right padding hl)
  rw [fields_joined (List.append_ne_nil_of_right_ne_nil padding hne) h, fields_joined hne hframe,
    List.foldl_append, foldl_readLine_padding hpadding]

/-- A text with a name and data. -/
def IsNamed (cs : List Char) : Prop :=
  ∃ name data, fields cs = (some name, some data)

/-- What a frame without a name or without data gives. -/
def unreadable (cs : List Char) : Item :=
  .error (.serialization ("Malformed SSE event: '" ++ String.ofList cs ++ "'") .none)

theorem ofFrame_of_not_isNamed (h : ¬ IsNamed cs) : Event.ofFrame cs = unreadable cs := by
  unfold Event.ofFrame
  split
  · next name data hfields => exact absurd ⟨name, data, hfields⟩ h
  · rfl

theorem ofFrame_congr (hds : IsNamed ds) (h : fields cs = fields ds) :
    Event.ofFrame cs = Event.ofFrame ds := by
  obtain ⟨name, data, hfields⟩ := hds
  rw [Event.ofFrame, Event.ofFrame, h, hfields]

theorem unreadable_inj : unreadable cs = unreadable ds ↔ cs = ds := by
  constructor
  · intro h
    have htext : "Malformed SSE event: '" ++ String.ofList cs ++ "'" =
        "Malformed SSE event: '" ++ String.ofList ds ++ "'" := by
      injection h with h
      injection h
    have hchars := congrArg String.toList htext
    simpa using hchars
  · exact congrArg unreadable

theorem ofFrame_padding (hne : ls ≠ []) (hpadding : ∀ l ∈ ls, IsPadding l)
    (h : ∀ l ∈ ls, '\n' ∉ l) : Event.ofFrame (joined ls) = unreadable (joined ls) := by
  apply ofFrame_of_not_isNamed
  rintro ⟨name, data, hfields⟩
  rw [fields_joined hne h, foldl_readLine_padding hpadding] at hfields
  cases hfields

/-- The blocks of lines that a blank line ends, and the block that is still open. A blank line ends
no block if it would be the first of it. -/
def blocks (held : List (List Char)) :
    List (List Char) → List (List (List Char)) × List (List Char)
  | [] => ([], held)
  | l :: ls =>
    if l = [] ∧ held ≠ [] then (held :: (blocks [] ls).1, (blocks [] ls).2)
    else blocks (held ++ [l]) ls

theorem blocks_append : blocks held (ls ++ ms) =
    ((blocks held ls).1 ++ (blocks (blocks held ls).2 ms).1, (blocks (blocks held ls).2 ms).2) := by
  induction ls generalizing held with
  | nil => rfl
  | cons l ls ih =>
    rw [List.cons_append, blocks, blocks]
    split
    · rw [ih, List.cons_append]
    · exact ih

theorem blocks_of_not_mem (h : [] ∉ ls) : blocks held ls = ([], held ++ ls) := by
  induction ls generalizing held with
  | nil => rw [blocks, List.append_nil]
  | cons l ls ih =>
    rw [List.mem_cons, not_or] at h
    rw [blocks, if_neg fun hblank => h.1 hblank.1.symm, ih h.2, List.append_assoc]
    rfl

theorem blocks_blank (h : held ≠ []) :
    blocks held ([] :: ls) = (held :: (blocks [] ls).1, (blocks [] ls).2) := by
  rw [blocks, if_pos ⟨rfl, h⟩]

theorem blocks_fst_eq_nil_iff (h : held ≠ []) : (blocks held ls).1 = [] ↔ [] ∉ ls := by
  induction ls generalizing held with
  | nil => simp [blocks]
  | cons l ls ih =>
    by_cases hl : l = []
    · subst hl
      simp [blocks_blank h]
    · rw [blocks, if_neg fun hblank => hl hblank.1, ih (by simp), List.mem_cons]
      simp [Ne.symm hl]

theorem blocks_nil_fst_eq_nil_iff : (blocks [] ls).1 = [] ↔ [] ∉ ls.tail := by
  cases ls with
  | nil => simp [blocks]
  | cons l ls =>
    rw [blocks, if_neg (by simp)]
    exact blocks_fst_eq_nil_iff (by simp)

theorem blocks_nil_of_not_mem (h : [] ∉ ls.tail) : blocks [] ls = ([], ls) := by
  cases ls with
  | nil => rfl
  | cons l ls =>
    rw [blocks, if_neg (by simp)]
    exact blocks_of_not_mem h

theorem forall_blocks {P : List Char → Prop} (h : ∀ l ∈ held ++ ls, P l) :
    (∀ block ∈ (blocks held ls).1, block ≠ [] ∧ ∀ l ∈ block, P l) ∧
      ∀ l ∈ (blocks held ls).2, P l := by
  induction ls generalizing held with
  | nil => simpa [blocks] using h
  | cons l ls ih =>
    rw [blocks]
    split
    · next hblank =>
      have hrest := @ih [] fun m hm => h m (by simp_all)
      refine ⟨?_, hrest.2⟩
      intro block hblock
      rcases List.mem_cons.mp hblock with rfl | hblock
      · exact ⟨hblank.2, fun m hm => h m (List.mem_append_left _ hm)⟩
      · exact hrest.1 block hblock
    · apply ih
      rwa [List.append_assoc]

theorem not_mem_tail_blocks (h : [] ∉ held.tail) : [] ∉ (blocks held ls).2.tail := by
  induction ls generalizing held with
  | nil => exact h
  | cons l ls ih =>
    rw [blocks]
    split
    · exact ih (by simp)
    · next hblank =>
      apply ih
      cases held with
      | nil => simp
      | cons m held =>
        have hl : l ≠ [] := fun hl => hblank ⟨hl, by simp⟩
        simpa [Ne.symm hl] using h

namespace EventStream

theorem frames_ended (hblank : [] ∉ held.tail) (h : ∀ l ∈ held ++ ls, '\n' ∉ l) :
    frames (ended held ++ ended ls) =
      ((blocks held ls).1.map joined, ended (blocks held ls).2) := by
  -- the invariant is that the open block has no blank line behind its first
  induction ls generalizing held with
  | nil =>
    rw [blocks]
    simpa [ended] using frames_ended_open hblank (by simpa using h)
  | cons l ls ih =>
    rw [blocks]
    split
    · next hend =>
      obtain ⟨rfl, hheld⟩ := hend
      have hnone : frames (ended ls) = ((blocks [] ls).1.map joined, ended (blocks [] ls).2) :=
        @ih [] (by simp) fun l hl => h l (by simp_all)
      have hlines : ∀ l ∈ held, '\n' ∉ l := fun l hl => h l (List.mem_append_left _ hl)
      have htext : ended held ++ ended ([] :: ls) = joined held ++ '\n' :: '\n' :: ended ls := by
        rw [ended_eq_joined hheld, ended_cons, List.append_assoc]
        rfl
      rw [htext, frames_joined hheld hblank hlines, hnone, List.map_cons]
    · next hheld =>
      have htext : ended held ++ ended (l :: ls) = ended (held ++ [l]) ++ ended ls := by
        rw [ended_append, List.append_assoc, ended_cons, ended_cons, List.append_assoc]
        rfl
      rw [htext]
      apply ih
      · cases held with
        | nil => simp
        | cons m held =>
          have hl : l ≠ [] := fun hl => hheld ⟨hl, by simp⟩
          simpa [Ne.symm hl] using hblank
      · simpa using h

theorem trim_ended_padding (hpadding : ∀ l ∈ ls, IsPadding l) (hblank : [] ∉ ls.tail)
    (hne : ls ≠ []) (hone : ls ≠ [[]]) : Text.trim (ended ls) ≠ [] := by
  have hcomment : ∀ {l : List Char} {more : List (List Char)}, IsPadding l → l ≠ [] →
      Text.trim (ended (l :: more)) ≠ [] := by
    intro l more hl hl'
    obtain ⟨rest, rfl⟩ := List.head?_eq_some_iff.mp (hl.resolve_left hl')
    exact Text.trim_cons_ne_nil (by decide) _
  match ls with
  | [] => exact absurd rfl hne
  | l :: ls =>
    by_cases hl : l = []
    · subst hl
      match ls with
      | [] => exact absurd rfl hone
      | m :: ls =>
        have hm : m ≠ [] := fun hm => hblank (by simp [hm])
        rw [ended_cons, List.nil_append, Text.trim_cons_blank (by decide)]
        exact hcomment (hpadding m (by simp)) hm
    · exact hcomment (hpadding l List.mem_cons_self) hl

/-- At the end of the body padding is a frame as well, unless it is a blank line at most. -/
theorem finish_padding (hblank : [] ∉ ls.tail) (hpadding : ∀ l ∈ ls, IsPadding l)
    (h : ∀ l ∈ ls, '\n' ∉ l) :
    ({ buffer := ended ls } : EventStream).finish =
      if ls = [] ∨ ls = [[]] then [] else [unreadable (joined ls)] := by
  split
  · next hls => rcases hls with rfl | rfl <;> rfl
  · next hls =>
    rw [not_or] at hls
    have htrim := trim_ended_padding hpadding hblank hls.1 hls.2
    have hframe := frames_joined hls.1 hblank h ['\n']
    have htext : ended ls ++ ['\n', '\n'] = joined ls ++ '\n' :: '\n' :: ['\n'] := by
      rw [ended_eq_joined hls.1, List.append_assoc]
      rfl
    have hitem := ofFrame_padding hls.1 hpadding h
    simp only [finish, List.isEmpty_iff, htrim, htext, hframe]
    simpa using hitem

theorem normalize_single (h : IsSingle l) : normalize (l ++ ['\n']) = l ++ ['\n'] := by
  obtain ⟨hnewline, hending⟩ := h
  induction l with
  | nil => rfl
  | cons c l ih =>
    rw [List.mem_cons, not_or] at hnewline
    have hhead : c = '\r' → (l ++ ['\n']).head? ≠ some '\n' := by
      rintro rfl
      cases l with
      | nil => simp at hending
      | cons d l =>
        intro hd
        obtain rfl : d = '\n' := by simpa using hd
        exact hnewline.2 List.mem_cons_self
    have hlast : l.getLast? ≠ some '\r' := by
      cases l with
      | nil => simp
      | cons d l => rwa [List.getLast?_cons_cons] at hending
    rw [List.cons_append, normalize_cons hhead, ih hnewline.2 hlast]

theorem not_infix_ended (h : ∀ l ∈ ls, IsSingle l) : ¬ ['\r', '\n'] <:+: ended ls := by
  rw [← normalize_eq_self_iff]
  induction ls with
  | nil => rfl
  | cons l ls ih =>
    rw [List.forall_mem_cons] at h
    rw [ended_cons, normalize_append_newline, normalize_single h.1, ih h.2, List.append_assoc]
    rfl

/-- A frame with the padding in front of it. -/
structure PaddedFrame where
  padding : List (List Char)
  frame : List (List Char)
  isPadding : ∀ l ∈ padding, IsPadding l
  frame_ne_nil : frame ≠ []
  nonblank : [] ∉ frame
  isSingle : ∀ l ∈ padding ++ frame, IsSingle l

/-- A body made of complete frames, with padding before, between and behind them. -/
structure PaddedBody where
  parts : List PaddedFrame
  last : List (List Char)
  isPadding : ∀ l ∈ last, IsPadding l
  isSingle : ∀ l ∈ last, IsSingle l

namespace PaddedFrame

variable (f : PaddedFrame)

/-- The lines of a frame, with the blank line that ends it. -/
def lines : List (List Char) :=
  f.padding ++ f.frame ++ [[]]

def bare : PaddedFrame where
  padding := []
  frame := f.frame
  isPadding := by simp
  frame_ne_nil := f.frame_ne_nil
  nonblank := f.nonblank
  isSingle := fun l hl => f.isSingle l (List.mem_append_right _ hl)

/-- What a frame gives: an error for each block of padding that ends before it, and its own item. A
block of padding that is still open becomes part of the frame. -/
def items : List Item :=
  (blocks [] f.padding).1.map (fun block => unreadable (joined block)) ++
    [Event.ofFrame (joined ((blocks [] f.padding).2 ++ f.frame))]

/-- Padding that leaves a frame as it is: no line of it is blank but the first, and there is none if
the frame is one that is quoted in an error. -/
def Harmless : Prop :=
  [] ∉ f.padding.tail ∧ (f.padding = [] ∨ IsNamed (joined f.frame))

end PaddedFrame

namespace PaddedBody

variable (b : PaddedBody)

def text : List Char :=
  ended (b.parts.flatMap PaddedFrame.lines ++ b.last)

def bare : PaddedBody where
  parts := b.parts.map PaddedFrame.bare
  last := []
  isPadding := by simp
  isSingle := by simp

/-- What the padding behind the last frame gives. -/
def lastItems : List Item :=
  (blocks [] b.last).1.map (fun block => unreadable (joined block)) ++
    if (blocks [] b.last).2 = [] ∨ (blocks [] b.last).2 = [[]] then []
    else [unreadable (joined (blocks [] b.last).2)]

def items : List Item :=
  b.parts.flatMap PaddedFrame.items ++ b.lastItems

end PaddedBody

variable {fs : List PaddedFrame}

theorem forall_newline (h : ∀ l ∈ ls, IsSingle l) : ∀ l ∈ ls, '\n' ∉ l :=
  fun l hl => (h l hl).newline

theorem isPadding_blocks (hpadding : ∀ l ∈ ls, IsPadding l) (hsingle : ∀ l ∈ ls, IsSingle l) :
    (∀ block ∈ (blocks [] ls).1, block ≠ [] ∧ ∀ l ∈ block, IsPadding l ∧ '\n' ∉ l) ∧
      ∀ l ∈ (blocks [] ls).2, IsPadding l ∧ '\n' ∉ l :=
  forall_blocks fun l hl => ⟨hpadding l hl, (hsingle l hl).newline⟩

theorem map_ofFrame_padding (hpadding : ∀ l ∈ ls, IsPadding l) (hsingle : ∀ l ∈ ls, IsSingle l) :
    ((blocks [] ls).1.map joined).map Event.ofFrame =
      (blocks [] ls).1.map fun block => unreadable (joined block) := by
  rw [List.map_map]
  refine List.map_congr_left fun block hblock => ?_
  obtain ⟨hne, hlines⟩ := (isPadding_blocks hpadding hsingle).1 block hblock
  exact ofFrame_padding hne (fun l hl => (hlines l hl).1) fun l hl => (hlines l hl).2

namespace PaddedFrame

theorem blocks_lines (f : PaddedFrame) (more : List (List Char)) :
    blocks [] (f.lines ++ more) =
      ((blocks [] f.padding).1 ++ ((blocks [] f.padding).2 ++ f.frame) :: (blocks [] more).1,
        (blocks [] more).2) := by
  have hne : (blocks [] f.padding).2 ++ f.frame ≠ [] :=
    List.append_ne_nil_of_right_ne_nil _ f.frame_ne_nil
  rw [lines, List.append_assoc, List.append_assoc, blocks_append, blocks_append,
    blocks_of_not_mem f.nonblank, List.singleton_append, blocks_blank hne]
  rfl

end PaddedFrame

namespace PaddedBody

/-- The items of the frames of a body, and the block of lines behind the last of them. -/
theorem map_ofFrame_blocks (fs : List PaddedFrame) (more : List (List Char)) :
    ((blocks [] (fs.flatMap PaddedFrame.lines ++ more)).1.map joined).map Event.ofFrame =
        fs.flatMap PaddedFrame.items ++ ((blocks [] more).1.map joined).map Event.ofFrame ∧
      (blocks [] (fs.flatMap PaddedFrame.lines ++ more)).2 = (blocks [] more).2 := by
  induction fs with
  | nil => exact ⟨rfl, rfl⟩
  | cons f fs ih =>
    rw [List.flatMap_cons, List.append_assoc, f.blocks_lines, ih.2]
    refine ⟨?_, rfl⟩
    rw [List.map_append, List.map_append, List.map_cons, List.map_cons, ih.1,
      map_ofFrame_padding f.isPadding fun l hl => f.isSingle l (List.mem_append_left _ hl),
      List.flatMap_cons, PaddedFrame.items]
    simp

theorem isSingle_lines (b : PaddedBody) :
    ∀ l ∈ b.parts.flatMap PaddedFrame.lines ++ b.last, IsSingle l := by
  intro l hl
  rcases List.mem_append.mp hl with hl | hl
  · obtain ⟨f, -, hl⟩ := List.mem_flatMap.mp hl
    rcases List.mem_append.mp hl with hl | hl
    · exact f.isSingle l hl
    · obtain rfl := List.mem_singleton.mp hl
      exact ⟨List.not_mem_nil, by simp⟩
  · exact b.isSingle l hl

theorem decode_text (b : PaddedBody) {chunks : List (List UInt8)}
    (h : chunks.flatten = Utf8.encode b.text) : decode (chunks.map .bytes) = b.items := by
  have hsingle := b.isSingle_lines
  have hframes : frames b.text = _ := @frames_ended _ [] (by simp) (forall_newline hsingle)
  obtain ⟨hitems, hrest⟩ := map_ofFrame_blocks b.parts b.last
  obtain ⟨-, hopen⟩ := isPadding_blocks b.isPadding b.isSingle
  have htail : [] ∉ (blocks [] b.last).2.tail := not_mem_tail_blocks List.not_mem_nil
  have hfinish := finish_padding htail (fun l hl => (hopen l hl).1) fun l hl => (hopen l hl).2
  rw [decode_of_frames (not_infix_ended hsingle) hframes h, hitems, hrest, hfinish,
    map_ofFrame_padding b.isPadding b.isSingle, items, lastItems, List.append_assoc]

theorem items_bare (b : PaddedBody) :
    b.bare.items = b.parts.map fun f => Event.ofFrame (joined f.frame) := by
  have hlast : b.bare.lastItems = [] := rfl
  rw [items, hlast, List.append_nil, bare, List.flatMap_map]
  exact List.map_eq_flatMap.symm

end PaddedBody

namespace PaddedFrame

theorem items_eq_singleton_iff (f : PaddedFrame) :
    f.items = [Event.ofFrame (joined f.frame)] ↔ f.Harmless := by
  have hnewline := forall_newline f.isSingle
  have hfields := fields_padding_append f.isPadding f.frame_ne_nil hnewline
  constructor
  · intro h
    have hnone : (blocks [] f.padding).1 = [] := by
      have hlength := congrArg List.length h
      simpa [items] using hlength
    have htail := blocks_nil_fst_eq_nil_iff.mp hnone
    rw [items, blocks_nil_of_not_mem htail] at h
    refine ⟨htail, or_iff_not_imp_right.mpr fun hnamed => ?_⟩
    -- the error quotes the frame, so padding in front of it would be seen
    have hnamed' : ¬ IsNamed (joined (f.padding ++ f.frame)) := by
      rwa [IsNamed, hfields]
    have htext : joined (f.padding ++ f.frame) = joined f.frame := by
      rw [← unreadable_inj, ← ofFrame_of_not_isNamed hnamed, ← ofFrame_of_not_isNamed hnamed']
      simpa using h
    have hlines := congrArg Provider.lines htext
    rw [lines_joined (List.append_ne_nil_of_right_ne_nil _ f.frame_ne_nil) hnewline,
      lines_joined f.frame_ne_nil fun l hl => hnewline l (List.mem_append_right _ hl)] at hlines
    exact List.append_left_eq_self.mp hlines
  · rintro ⟨htail, hpadding⟩
    rw [items, blocks_nil_of_not_mem htail]
    rcases hpadding with hpadding | hnamed
    · rw [hpadding]
      rfl
    · rw [ofFrame_congr hnamed hfields]
      rfl

theorem length_le_items (fs : List PaddedFrame) : fs.length ≤ (fs.flatMap items).length := by
  induction fs with
  | nil => exact Nat.le_refl _
  | cons f fs ih =>
    have hone : 1 ≤ f.items.length := by simp [items]
    rw [List.flatMap_cons, List.length_append, List.length_cons]
    omega

end PaddedFrame

/-- Every frame gives an item at least, so there are no more items than frames just if each frame
gives its own and nothing comes behind them. -/
theorem flatMap_items_append_eq_iff {later : List Item} :
    fs.flatMap PaddedFrame.items ++ later = fs.map (fun f => Event.ofFrame (joined f.frame)) ↔
      (∀ f ∈ fs, f.Harmless) ∧ later = [] := by
  induction fs with
  | nil => simp
  | cons f fs ih =>
    rw [List.forall_mem_cons, and_assoc, ← ih, List.flatMap_cons, List.map_cons, List.append_assoc,
      ← f.items_eq_singleton_iff, ← List.singleton_append]
    constructor
    · intro h
      have hone : 1 ≤ f.items.length := by simp [PaddedFrame.items]
      have hle := PaddedFrame.length_le_items fs
      have hlength := congrArg List.length h
      simp only [List.length_append, List.length_map, List.length_singleton] at hlength
      apply List.append_inj h
      rw [List.length_singleton]
      omega
    · rintro ⟨hfirst, hrest⟩
      rw [hfirst, hrest]

theorem PaddedBody.lastItems_eq_nil_iff (b : PaddedBody) :
    b.lastItems = [] ↔ b.last = [] ∨ b.last = [[]] := by
  constructor
  · intro h
    obtain ⟨hspilled, hopen⟩ := List.append_eq_nil_iff.mp h
    have htail := blocks_nil_fst_eq_nil_iff.mp (List.map_eq_nil_iff.mp hspilled)
    rw [blocks_nil_of_not_mem htail] at hopen
    by_contra hlast
    rw [if_neg hlast] at hopen
    cases hopen
  · intro h
    rcases h with h | h <;> rw [PaddedBody.lastItems, h] <;> rfl

/-- A body of complete frames, padded with any number of blank lines and comments before, between
and behind its frames, gives the item of each frame, and an error for each block of padding that a
blank line or the end of the body ends. So it gives the items of the frames alone just if no blank
line stands behind another line of the padding in front of a frame, a frame without a name or data
has no padding, and the padding at the end is one blank line at most. -/
theorem padding_makes_frames (b : PaddedBody) {chunks bare : List (List UInt8)}
    (hchunks : chunks.flatten = Utf8.encode b.text)
    (hbare : bare.flatten = Utf8.encode b.bare.text) :
    decode (chunks.map .bytes) = b.items ∧
      decode (bare.map .bytes) = (b.parts.map fun f => Event.ofFrame (joined f.frame)) ∧
      (decode (chunks.map .bytes) = decode (bare.map .bytes) ↔
        (∀ f ∈ b.parts, f.Harmless) ∧ (b.last = [] ∨ b.last = [[]])) := by
  have hitems := b.decode_text hchunks
  have halone := b.bare.decode_text hbare
  rw [b.items_bare] at halone
  refine ⟨hitems, halone, ?_⟩
  rw [hitems, halone, PaddedBody.items, flatMap_items_append_eq_iff, b.lastItems_eq_nil_iff]

/-- A blank line and a comment stand in front of the first frame, a comment in front of the second,
and a blank line at the end. The bytes are cut within the blank line behind the first frame. -/
theorem padding_makes_frames_harmless :
    let ping : PaddedFrame :=
      { padding := [[], ": one".toList]
        frame := ["event: ping".toList, "data: \x7b\x7d".toList]
        isPadding := by decide +kernel
        frame_ne_nil := by decide +kernel
        nonblank := by decide +kernel
        isSingle := by decide +kernel }
    let stop : PaddedFrame :=
      { padding := [":".toList]
        frame := ["event: message_stop".toList, "data: \x7b\x7d".toList]
        isPadding := by decide +kernel
        frame_ne_nil := by decide +kernel
        nonblank := by decide +kernel
        isSingle := by decide +kernel }
    let b : PaddedBody :=
      { parts := [ping, stop]
        last := [[]]
        isPadding := by decide
        isSingle := by decide }
    let bytes := Utf8.encode b.text
    let chunks := [bytes.take 28, bytes.drop 28]
    chunks.flatten = Utf8.encode b.text ∧
      [Utf8.encode b.bare.text].flatten = Utf8.encode b.bare.text ∧
      decode (chunks.map .bytes) = decode [.bytes (Utf8.encode b.bare.text)] ∧
      decode (chunks.map .bytes) = [.ok .ping, .ok .messageStop] := by
  intro ping stop b bytes chunks
  have hchunks : chunks.flatten = Utf8.encode b.text := by
    simp only [chunks, List.flatten_cons, List.flatten_nil, List.append_nil, List.take_append_drop,
      bytes]
  have hbare : [Utf8.encode b.bare.text].flatten = Utf8.encode b.bare.text := List.flatten_singleton
  have hping : IsNamed (joined ping.frame) := ⟨"ping".toList, "\x7b\x7d".toList, by decide +kernel⟩
  have hstop : IsNamed (joined stop.frame) :=
    ⟨"message_stop".toList, "\x7b\x7d".toList, by decide +kernel⟩
  have hharmless : ∀ f ∈ b.parts, f.Harmless := by
    intro f hf
    rcases List.mem_cons.mp hf with rfl | hf
    · exact ⟨by decide +kernel, .inr hping⟩
    · obtain rfl := List.mem_singleton.mp hf
      exact ⟨by decide +kernel, .inr hstop⟩
  obtain ⟨-, halone, hsame⟩ := padding_makes_frames b hchunks hbare
  have hequal := hsame.mpr ⟨hharmless, .inr rfl⟩
  refine ⟨hchunks, hbare, hequal, hequal.trans (halone.trans ?_)⟩
  decide +kernel

/-- A comment with a blank line behind it stands between two frames, as a server sends it to keep
the connection alive. It gives an error between their events. -/
theorem comment_between_frames_spoils :
    let ping : PaddedFrame :=
      { padding := []
        frame := ["event: ping".toList, "data: \x7b\x7d".toList]
        isPadding := by decide
        frame_ne_nil := by decide +kernel
        nonblank := by decide +kernel
        isSingle := by decide +kernel }
    let stop : PaddedFrame :=
      { padding := [": keep-alive".toList, []]
        frame := ["event: message_stop".toList, "data: \x7b\x7d".toList]
        isPadding := by decide +kernel
        frame_ne_nil := by decide +kernel
        nonblank := by decide +kernel
        isSingle := by decide +kernel }
    let b : PaddedBody :=
      { parts := [ping, stop]
        last := []
        isPadding := by decide
        isSingle := by decide }
    decode [.bytes (Utf8.encode b.text)] =
        [.ok .ping, unreadable ": keep-alive".toList, .ok .messageStop] ∧
      decode [.bytes (Utf8.encode b.bare.text)] = [.ok .ping, .ok .messageStop] := by
  intro ping stop b
  have hpadded : decode [.bytes (Utf8.encode b.text)] = b.items :=
    @PaddedBody.decode_text b [Utf8.encode b.text] List.flatten_singleton
  have hbare : decode [.bytes (Utf8.encode b.bare.text)] = b.bare.items :=
    @PaddedBody.decode_text b.bare [Utf8.encode b.bare.text] List.flatten_singleton
  rw [hpadded, hbare]
  exact ⟨by decide +kernel, by decide +kernel⟩

end EventStream

end Parley.Provider
