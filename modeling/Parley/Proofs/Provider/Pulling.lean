import Parley.Proofs.Provider.Chunks

/-! # One item at a time

A reader asks the decoder for one item after the other. The decoder takes a frame from the text that
it holds, and reads the next chunk only when there is none. That gives the items of the chunks, and
shows where a chunk that cannot be received leaves its mark: behind the items of the chunks before
it, and nowhere else.
-/

namespace Parley.Provider.EventStream

/-- The text up to the first blank line, and the text after it. -/
def splitFrame? : List Char → Option (List Char × List Char)
  | [] => none
  | '\n' :: '\n' :: rest => some ([], rest)
  | c :: rest => (splitFrame? rest).map fun (frame, after) => (c :: frame, after)

/-- A decoder with the chunks that it has not read yet. -/
structure Pull where
  state : EventStream := {}
  unread : List Chunk

namespace Pull

/-- One turn of a decoder that is asked for an item: the item, if the turn gives one, and what the
decoder is then. There is no turn after the end. -/
def turn (p : Pull) : Option (Option Item × Pull) :=
  match splitFrame? p.state.buffer with
  | some (frame, buffer) =>
    some (some (Event.ofFrame frame), { p with state := { p.state with buffer } })
  | none =>
    match p.unread with
    | .bytes bs :: unread =>
      match Utf8.read [] (p.state.pending ++ bs) with
      | .text cs pending =>
        some (none, { state := { pending, buffer := normalize (p.state.buffer ++ cs) }, unread })
      | .malformed index width =>
        some (some (.error (malformed (.invalid index width))),
          { state := { p.state with pending := [] }, unread })
    | .failure message cause :: unread =>
      some (some (.error (broken message cause)), { p with unread })
    | [] =>
      if p.state.pending.isEmpty then
        if (Text.trim p.state.buffer).isEmpty then none
        else
          (splitFrame? (p.state.buffer ++ ['\n', '\n'])).map fun (frame, _) =>
            (some (Event.ofFrame frame), { p with state := { p.state with buffer := [] } })
      else some (some (.error truncated), { p with state := { p.state with pending := [] } })

/-- The items that a decoder gives on its way from one state to another. -/
inductive Gives : Pull → List Item → Pull → Prop where

  | refl {p : Pull} : Gives p [] p

  | silent {p q r : Pull} {items : List Item} : p.turn = some (none, q) → Gives q items r →
      Gives p items r

  | item {p q r : Pull} {x : Item} {items : List Item} : p.turn = some (some x, q) →
      Gives q items r → Gives p (x :: items) r

/-- The items that a decoder gives up to the end. -/
def Yields (p : Pull) (items : List Item) : Prop :=
  ∃ q, Gives p items q ∧ q.turn = none

variable {p q r : Pull} {items items' : List Item} {s : EventStream} {unread : List Chunk}
  {c : Chunk} {cs : List Char}

theorem Gives.trans (h : Gives p items q) (h' : Gives q items' r) :
    Gives p (items ++ items') r := by
  induction h with
  | refl => exact h'
  | silent ht _ ih => exact .silent ht (ih h')
  | item ht _ ih => exact .item ht (ih h')

theorem Gives.yields_iff (h : Gives p items q) :
    Yields p items' ↔ ∃ rest, items' = items ++ rest ∧ Yields q rest := by
  constructor
  · intro hy
    induction h generalizing items' with
    | refl => exact ⟨items', rfl, hy⟩
    | silent ht _ ih =>
      obtain ⟨r, hr, hend⟩ := hy
      cases hr with
      | refl => simp [ht] at hend
      | silent ht' hr =>
        obtain rfl : _ = _ := by simpa using ht.symm.trans ht'
        exact ih ⟨r, hr, hend⟩
      | item ht' => simp [ht] at ht'
    | item ht _ ih =>
      obtain ⟨r, hr, hend⟩ := hy
      cases hr with
      | refl => simp [ht] at hend
      | silent ht' => simp [ht] at ht'
      | item ht' hr =>
        obtain ⟨rfl, rfl⟩ : _ ∧ _ := by simpa using ht.symm.trans ht'
        obtain ⟨rest, rfl, hrest⟩ := ih ⟨r, hr, hend⟩
        exact ⟨rest, rfl, hrest⟩
  · rintro ⟨rest, rfl, r, hr, hend⟩
    exact ⟨r, h.trans hr, hend⟩

theorem frames_eq_splitFrame? (cs : List Char) : frames cs =
    match splitFrame? cs with
    | none => ([], cs)
    | some (frame, after) => (frame :: (frames after).1, (frames after).2) := by
  fun_induction splitFrame? cs with
  | case1 => rfl
  | case2 rest => rw [frames]
  | case3 c rest hc ih =>
    rw [frames_cons (head?_ne_newline hc), ih]
    cases splitFrame? rest <;> rfl

theorem splitFrame?_frames (cs : List Char) : splitFrame? (frames cs).2 = none := by
  have hframes := frames_snd_frames cs
  rw [frames_eq_splitFrame?] at hframes
  cases hsplit : splitFrame? (frames cs).2 with
  | none => rfl
  | some split => simp [hsplit] at hframes

theorem gives_frames (pending : List UInt8) (cs : List Char) (unread : List Chunk) :
    Gives { state := { pending, buffer := cs }, unread } ((frames cs).1.map Event.ofFrame)
      { state := { pending, buffer := (frames cs).2 }, unread } := by
  induction hfs : (frames cs).1 generalizing cs with
  | nil =>
    have hcs : (frames cs).2 = cs := by simpa [hfs, framed] using framed_append_eq cs
    rw [hcs]
    exact .refl
  | cons f fs ih =>
    have hframes := frames_eq_splitFrame? cs
    cases hsplit : splitFrame? cs with
    | none => simp [hsplit, hfs, Prod.ext_iff] at hframes
    | some split =>
      obtain ⟨frame, after⟩ := split
      rw [hsplit] at hframes
      simp only [hframes, List.cons.injEq] at hfs
      obtain ⟨rfl, hfs⟩ := hfs
      have hrest := ih after hfs
      rw [hframes]
      exact .item (by simp [turn, hsplit]) hrest

theorem gives_receive (hs : splitFrame? s.buffer = none) (c : Chunk) (unread : List Chunk) :
    Gives { state := s, unread := c :: unread } (s.receive c).2
      { state := (s.receive c).1, unread } := by
  cases c with
  | bytes bs =>
    cases hread : Utf8.read [] (s.pending ++ bs) with
    | text cs pending =>
      have hturn : turn { state := s, unread := .bytes bs :: unread } =
          some (none, { state := { pending, buffer := normalize (s.buffer ++ cs) }, unread }) := by
        simp [turn, hs, hread]
      simp only [receive, hread]
      exact .silent hturn (gives_frames ..)
    | malformed index width =>
      simp only [receive, hread]
      exact .item (by simp [turn, hs, hread]) .refl
  | failure message cause => exact .item (by simp [turn, hs]; rfl) .refl

theorem splitFrame?_receive (hs : splitFrame? s.buffer = none) (c : Chunk) :
    splitFrame? (s.receive c).1.buffer = none := by
  cases c with
  | bytes bs =>
    simp only [receive]
    split
    · exact splitFrame?_frames _
    · exact hs
  | failure => exact hs

theorem yields_tail (hs : splitFrame? s.buffer = none) (hp : s.pending = []) :
    Yields { state := s, unread := [] } (if (Text.trim s.buffer).isEmpty then []
      else ((frames (s.buffer ++ ['\n', '\n'])).1.take 1).map Event.ofFrame) := by
  split
  · next hblank => exact ⟨_, .refl, by simp [turn, hs, hp, hblank]⟩
  · next hblank =>
    rw [frames_eq_splitFrame?]
    cases hsplit : splitFrame? (s.buffer ++ ['\n', '\n']) with
    | none => exact ⟨_, .refl, by simp [turn, hs, hp, hsplit]⟩
    | some split =>
      have hturn : turn { state := s, unread := [] } =
          some (some (Event.ofFrame split.1), { state := { s with buffer := [] }, unread := [] }) := by
        simp [turn, hs, hp, hblank, hsplit]
      have hend : turn { state := { s with buffer := [] }, unread := [] } = none := by
        rw [hp]
        rfl
      exact ⟨_, .item hturn .refl, hend⟩

theorem yields_finish (hs : splitFrame? s.buffer = none) :
    Yields { state := s, unread := [] } s.finish := by
  rw [finish]
  split
  · next hp => exact yields_tail hs (List.isEmpty_iff.mp hp)
  · next hp =>
    have hturn : turn { state := s, unread := [] } =
        some (some (.error truncated), { state := { s with pending := [] }, unread := [] }) := by
      simp [turn, hs, hp]
    obtain ⟨q, hq, hend⟩ := yields_tail (s := { s with pending := [] }) hs rfl
    exact ⟨q, .item hturn hq, hend⟩

theorem yields_run (hs : splitFrame? s.buffer = none) (unread : List Chunk) :
    Yields { state := s, unread } (s.run unread) := by
  induction unread generalizing s with
  | nil => exact yields_finish hs
  | cons c unread ih =>
    obtain ⟨q, hq, hend⟩ := ih (splitFrame?_receive hs c)
    exact ⟨q, (gives_receive hs c unread).trans hq, hend⟩

theorem splitFrame?_feed (hs : splitFrame? s.buffer = none) (before : List Chunk) :
    splitFrame? (s.feed before).1.buffer = none := by
  induction before generalizing s with
  | nil => exact hs
  | cons c before ih => exact ih (splitFrame?_receive hs c)

theorem gives_feed (hs : splitFrame? s.buffer = none) (before more : List Chunk) :
    Gives { state := s, unread := before ++ more } (s.feed before).2
      { state := (s.feed before).1, unread := more } := by
  induction before generalizing s with
  | nil => exact .refl
  | cons c before ih =>
    exact (gives_receive hs c (before ++ more)).trans (ih (splitFrame?_receive hs c))

/-- What comes of some chunks comes of them whatever chunks follow. -/
theorem exists_given (hs : splitFrame? s.buffer = none) (before : List Chunk) :
    ∃ given state, splitFrame? state.buffer = none ∧
      (∀ more, Gives { state := s, unread := before ++ more } given { state, unread := more }) ∧
      ∀ more, s.run (before ++ more) = given ++ state.run more :=
  ⟨_, _, splitFrame?_feed hs before, gives_feed hs before, run_append s before⟩

/-- Pulling one item after the other gives the items of the chunks. -/
theorem yields_iff (chunks : List Chunk) (items : List Item) :
    Yields { unread := chunks } items ↔ items = decode chunks := by
  obtain ⟨q, hq, hend⟩ := yields_run (s := {}) rfl chunks
  rw [hq.yields_iff]
  constructor
  · rintro ⟨rest, rfl, r, hr, -⟩
    -- nothing comes after the end
    cases hr with
    | refl => simp [decode]
    | silent hturn => simp [hend] at hturn
    | item hturn => simp [hend] at hturn
  · rintro rfl
    exact ⟨[], by simp [decode], q, .refl, hend⟩

/-- A chunk that cannot be received adds one item, directly behind the items of the chunks before
it, and changes nothing else: the decoder reads the chunks after it in the state in which it would
have read them, with the bytes of an unfinished character and the text of an unfinished frame. -/
theorem failure_adds_one (before after : List Chunk) (message : String) (cause : Cause) :
    ∃ given state rest, splitFrame? state.buffer = none ∧
      (∀ more, Gives { unread := before ++ more } given { state, unread := more }) ∧
      Gives { state, unread := .failure message cause :: after }
        [.error (broken message cause)] { state, unread := after } ∧
      Yields { state, unread := after } rest ∧
      decode (before ++ after) = given ++ rest ∧
      decode (before ++ .failure message cause :: after) =
        given ++ .error (.stream ("Error in HTTP stream: " ++ message) cause) :: rest := by
  obtain ⟨given, state, hstate, hgives, hrun⟩ := exists_given (s := {}) rfl before
  refine ⟨given, state, state.run after, hstate, hgives, gives_receive hstate _ after,
    yields_run hstate after, hrun after, ?_⟩
  rw [decode, hrun]
  rfl

end Pull

end Parley.Provider.EventStream
