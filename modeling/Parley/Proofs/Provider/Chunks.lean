import Parley.Provider.EventStream
import Parley.Proofs.Text.Utf8

/-! # Chunks do not matter

An event stream gives the same items however its bytes are cut, also within a character, between a
carriage return and its line feed, or within the blank line that ends a frame. It gives the same
items if its lines end with line feeds alone. Two carriage returns before a line feed are left out:
the first of them meets the line feed only when the second is gone.
-/

namespace Parley.Provider.EventStream

open Utf8 (Unfinished)

variable {cs ds : List Char} {p q bs : List UInt8}

/-- No line feed has two carriage returns directly before it. -/
def CleanBreaks (cs : List Char) : Prop :=
  ¬ ['\r', '\r', '\n'] <:+: cs

theorem cleanBreaks_of_lineFeeds (h : ¬ ['\r', '\n'] <:+: cs) : CleanBreaks cs :=
  fun hi => h (List.IsInfix.trans ⟨['\r'], [], rfl⟩ hi)

theorem CleanBreaks.tail {c : Char} (h : CleanBreaks (c :: cs)) : CleanBreaks cs :=
  fun hi => h (List.infix_cons hi)

theorem CleanBreaks.left (h : CleanBreaks (cs ++ ds)) : CleanBreaks cs :=
  fun hi => h (hi.trans (List.prefix_append cs ds).isInfix)

theorem normalize_cons {c : Char} (h : c = '\r' → cs.head? ≠ some '\n') :
    normalize (c :: cs) = c :: normalize cs := by
  rw [normalize.eq_def]
  split
  · simp_all
  · next heq =>
    obtain ⟨rfl, rfl⟩ := List.cons.inj heq
    simp at h
  · next heq =>
    obtain ⟨rfl, rfl⟩ := List.cons.inj heq
    rfl

theorem normalize_of_not_infix (h : ¬ ['\r', '\n'] <:+: cs) : normalize cs = cs := by
  induction cs with
  | nil => rfl
  | cons c cs ih =>
    rw [List.infix_cons_iff, not_or] at h
    rw [normalize_cons, ih h.2]
    rintro rfl hn
    obtain ⟨rest, rfl⟩ := List.head?_eq_some_iff.mp hn
    exact h.1 ⟨rest, rfl⟩

theorem normalize_ne_nil (c : Char) (cs : List Char) : normalize (c :: cs) ≠ [] := by
  rw [normalize.eq_def]
  split <;> simp_all

theorem length_normalize_le (cs : List Char) : (normalize cs).length ≤ cs.length := by
  fun_induction normalize cs with
  | case1 => exact Nat.le_refl _
  | case2 rest ih =>
    simp only [List.length_cons]
    omega
  | case3 c rest _ ih =>
    simp only [List.length_cons]
    omega

theorem length_normalize_lt (h : ['\r', '\n'] <:+: cs) : (normalize cs).length < cs.length := by
  fun_induction normalize cs with
  | case1 => simp at h
  | case2 rest ih =>
    have hle := length_normalize_le rest
    simp only [List.length_cons]
    omega
  | case3 c rest hc ih =>
    rw [List.infix_cons_iff] at h
    rcases h with ⟨more, hmore⟩ | h
    · obtain ⟨rfl, rfl⟩ := List.cons.inj hmore
      exact absurd rfl (hc more rfl)
    · have hlt := ih h
      simp only [List.length_cons]
      omega

theorem normalize_eq_self_iff : normalize cs = cs ↔ ¬ ['\r', '\n'] <:+: cs := by
  constructor
  · intro h hreturn
    have hlt := length_normalize_lt hreturn
    rw [h] at hlt
    exact Nat.lt_irrefl _ hlt
  · exact normalize_of_not_infix

theorem normalize_append_newline (cs ds : List Char) :
    normalize (cs ++ '\n' :: ds) = normalize (cs ++ ['\n']) ++ normalize ds := by
  fun_induction normalize cs with
  | case1 => rfl
  | case2 rest ih => simpa [normalize] using ih
  | case3 c rest hc ih =>
    cases rest with
    | nil =>
      by_cases hr : c = '\r'
      · subst hr
        rfl
      · simp [normalize_cons, hr, normalize]
    | cons d rest =>
      have hd (es : List Char) :
          normalize (c :: d :: rest ++ es) = c :: normalize (d :: rest ++ es) := by
        refine normalize_cons ?_
        rintro rfl hd
        obtain rfl : d = '\n' := by simpa using hd
        exact hc rest rfl rfl
      rw [hd, ih, hd]
      rfl

theorem head?_normalize_eq_newline (h : (normalize cs).head? = some '\n') :
    cs.head? = some '\n' ∨ ['\r', '\n'] <+: cs := by
  revert h
  fun_cases normalize cs with
  | case1 => simp
  | case2 rest => simp
  | case3 c rest => exact .inl

/-- A carriage return is left before a line feed where there were two. -/
theorem infix_normalize (h : ['\r', '\n'] <:+: normalize cs) : ['\r', '\r', '\n'] <:+: cs := by
  fun_induction normalize cs with
  | case1 => simp at h
  | case2 rest ih =>
    rw [List.infix_cons_iff] at h
    rcases h with h | h
    · simp at h
    · exact List.infix_cons (List.infix_cons (ih h))
  | case3 c rest hc ih =>
    rw [List.infix_cons_iff, List.cons_prefix_cons] at h
    rcases h with ⟨rfl, h⟩ | h
    · obtain ⟨more, hmore⟩ := h
      have hhead : (normalize rest).head? = some '\n' := by
        rw [← hmore]
        rfl
      rcases head?_normalize_eq_newline hhead with hn | ⟨more, rfl⟩
      · obtain ⟨rest', rfl⟩ := List.head?_eq_some_iff.mp hn
        exact absurd rfl (hc rest' rfl)
      · exact ⟨[], more, rfl⟩
    · exact List.infix_cons (ih h)

/-- What is normalized already may be normalized again with what follows it. -/
theorem CleanBreaks.normalize_normalize_append (h : CleanBreaks cs) (ds : List Char) :
    normalize (normalize cs ++ ds) = normalize (cs ++ ds) := by
  fun_induction normalize cs with
  | case1 => rfl
  | case2 rest ih =>
    simp only [List.cons_append, normalize]
    rw [normalize_cons (by simp), ih h.tail.tail]
  | case3 c rest hc ih =>
    rw [List.cons_append, List.cons_append]
    cases rest with
    | nil => rfl
    | cons d rest =>
      have hd : c = '\r' → d ≠ '\n' := by
        rintro rfl rfl
        exact hc rest rfl rfl
      -- no line feed comes to stand behind the carriage return
      have hhead : c = '\r' → (normalize (d :: rest) ++ ds).head? ≠ some '\n' := by
        intro hr hn
        have hn : (normalize (d :: rest)).head? = some '\n' := by
          obtain ⟨e, es, he⟩ := List.exists_cons_of_ne_nil (normalize_ne_nil d rest)
          rwa [he] at hn ⊢
        rcases head?_normalize_eq_newline hn with hn | hn
        · exact hd hr (by simpa using hn)
        · exact h (List.cons_prefix_cons.mpr ⟨hr.symm, hn⟩).isInfix
      rw [normalize_cons hhead, ih h.tail, normalize_cons (by simpa using hd)]

theorem CleanBreaks.not_infix_normalize (h : CleanBreaks cs) : ¬ ['\r', '\n'] <:+: normalize cs :=
  fun hi => h (infix_normalize hi)

theorem CleanBreaks.normalize_normalize (h : CleanBreaks cs) :
    normalize (normalize cs) = normalize cs :=
  normalize_of_not_infix h.not_infix_normalize

/-- The text of some frames, with the blank lines that end them. -/
def framed (fs : List (List Char)) : List Char :=
  fs.flatMap (· ++ ['\n', '\n'])

theorem framed_append_eq (cs : List Char) : framed (frames cs).1 ++ (frames cs).2 = cs :=
  flatMap_frames_append cs

theorem frames_cons {c : Char} (h : c = '\n' → cs.head? ≠ some '\n') :
    frames (c :: cs) =
      match frames cs with
      | ([], after) => ([], c :: after)
      | (f :: fs, after) => ((c :: f) :: fs, after) := by
  rw [frames.eq_def]
  split
  · simp_all
  · next heq =>
    obtain ⟨rfl, rfl⟩ := List.cons.inj heq
    simp at h
  · next heq =>
    obtain ⟨rfl, rfl⟩ := List.cons.inj heq
    rfl

theorem head?_ne_newline {c : Char} (h : ∀ rest, c = '\n' → cs = '\n' :: rest → False) :
    c = '\n' → cs.head? ≠ some '\n' := by
  intro hc hn
  obtain ⟨rest, hcs⟩ := List.head?_eq_some_iff.mp hn
  exact h rest hc hcs

theorem head?_framed (f : List Char) (fs gs : List (List Char)) (cs ds : List Char) :
    (framed (f :: fs) ++ cs).head? = (framed (f :: gs) ++ ds).head? := by
  cases f <;> simp [framed]

theorem frames_first_append {gs : List (List Char)} (h : gs <+: (frames cs).1) (ds : List Char) :
    frames (framed gs ++ ds) = (gs ++ (frames ds).1, (frames ds).2) := by
  fun_induction frames cs generalizing gs with
  | case1 | case3 =>
    rw [List.prefix_nil.mp h]
    rfl
  | case2 rest fs after hf ih =>
    rcases List.prefix_cons_iff.mp h with rfl | ⟨gs, rfl, hgs⟩
    · rfl
    rw [hf] at ih
    have hblank : framed ([] :: gs) ++ ds = '\n' :: '\n' :: (framed gs ++ ds) := rfl
    rw [hblank, frames, ih hgs]
    rfl
  | case4 c rest hc f fs after hf ih =>
    rcases List.prefix_cons_iff.mp h with rfl | ⟨gs, rfl, hgs⟩
    · rfl
    rw [hf] at ih
    have hrest : framed (f :: fs) ++ after = rest := by
      simpa [hf] using framed_append_eq rest
    have hhead : c = '\n' → (framed (f :: gs) ++ ds).head? ≠ some '\n' := by
      rw [head?_framed f gs fs ds after, hrest]
      exact head?_ne_newline hc
    have hcons : framed ((c :: f) :: gs) ++ ds = c :: (framed (f :: gs) ++ ds) := rfl
    rw [hcons, frames_cons hhead, ih (List.cons_prefix_cons.mpr ⟨rfl, hgs⟩)]
    rfl

theorem frames_framed_append (cs ds : List Char) :
    frames (framed (frames cs).1 ++ ds) = ((frames cs).1 ++ (frames ds).1, (frames ds).2) :=
  frames_first_append (List.prefix_refl _) ds

theorem frames_append_eq (cs ds : List Char) : frames (cs ++ ds) =
    ((frames cs).1 ++ (frames ((frames cs).2 ++ ds)).1, (frames ((frames cs).2 ++ ds)).2) := by
  rw [← frames_framed_append, ← List.append_assoc, framed_append_eq]

theorem frames_mono (h : cs <+: ds) : (frames cs).1 <+: (frames ds).1 := by
  obtain ⟨rest, rfl⟩ := h
  rw [frames_append_eq]
  exact List.prefix_append ..

theorem normalize_framed_append (h : normalize cs = cs) (ds : List Char) :
    normalize (framed (frames cs).1 ++ ds) = framed (frames cs).1 ++ normalize ds := by
  have hcut (es : List Char) : normalize (framed (frames cs).1 ++ es) =
      normalize (framed (frames cs).1) ++ normalize es := by
    rcases List.eq_nil_or_concat (frames cs).1 with hn | ⟨fs, f, hf⟩
    · rw [hn]
      rfl
    · have hend : framed (frames cs).1 = framed fs ++ f ++ ['\n'] ++ ['\n'] := by
        simp [hf, framed]
      rw [hend, List.append_assoc _ _ es]
      exact normalize_append_newline ..
  have hwhole : normalize (framed (frames cs).1) ++ normalize (frames cs).2 =
      framed (frames cs).1 ++ (frames cs).2 := by
    rw [← hcut, framed_append_eq, h]
  have hle := length_normalize_le (framed (frames cs).1)
  have hle' := length_normalize_le (frames cs).2
  have hlength := congrArg List.length hwhole
  simp only [List.length_append] at hlength
  rw [hcut, (List.append_inj hwhole (by omega)).1]

/-- The frames of a text are those of its beginning, and those of what is left of it with the
rest. -/
theorem CleanBreaks.frames_normalize_append (h : CleanBreaks cs) (ds : List Char) :
    frames (normalize (cs ++ ds)) =
      ((frames (normalize cs)).1 ++ (frames (normalize ((frames (normalize cs)).2 ++ ds))).1,
        (frames (normalize ((frames (normalize cs)).2 ++ ds))).2) := by
  have hsplit : normalize cs ++ ds =
      framed (frames (normalize cs)).1 ++ ((frames (normalize cs)).2 ++ ds) := by
    rw [← List.append_assoc, framed_append_eq]
  rw [← h.normalize_normalize_append, hsplit, normalize_framed_append h.normalize_normalize,
    frames_framed_append]

def itemsOf (cs : List Char) : List Item :=
  (frames (normalize cs)).1.map Event.ofFrame

/-- The decoder that has read a text and the bytes `p` of an unfinished character. -/
def after (cs : List Char) (p : List UInt8) : EventStream :=
  { pending := p, buffer := (frames (normalize cs)).2 }

/-- A chunk takes the decoder from a text to a longer one, whatever came in the chunks before. -/
theorem CleanBreaks.receive_after (hcs : CleanBreaks cs) (hp : Unfinished p)
    (hread : Utf8.read p bs = .text ds q) :
    ((after cs p).receive (.bytes bs)).1 = after (cs ++ ds) q ∧
      itemsOf cs ++ ((after cs p).receive (.bytes bs)).2 = itemsOf (cs ++ ds) := by
  have hbytes : Utf8.read [] ((after cs p).pending ++ bs) = .text ds q := hp.read_append.mpr hread
  have hframes := hcs.frames_normalize_append ds
  simp only [receive, hbytes]
  constructor
  · simp only [after, hframes]
  · simp only [itemsOf, hframes, List.map_append]
    rfl

/-- What chunks make of a decoder, and the items that it gives for them. -/
def feed (s : EventStream) : List Chunk → EventStream × List Item
  | [] => (s, [])
  | c :: rest => ((feed (s.receive c).1 rest).1, (s.receive c).2 ++ (feed (s.receive c).1 rest).2)

theorem run_append (s : EventStream) (before more : List Chunk) :
    s.run (before ++ more) = (s.feed before).2 ++ (s.feed before).1.run more := by
  induction before generalizing s with
  | nil => rfl
  | cons c before ih => rw [List.cons_append, run, ih, ← List.append_assoc, feed]

theorem decode_eq_feed (chunks : List Chunk) :
    decode chunks = (feed {} chunks).2 ++ (feed {} chunks).1.finish := by
  have hrun := run_append {} chunks []
  rwa [List.append_nil] at hrun

theorem CleanBreaks.feed_after {chunks : List (List UInt8)} (hds : CleanBreaks (cs ++ ds))
    (hp : Unfinished p) (hread : Utf8.read p chunks.flatten = .text ds q) :
    ((after cs p).feed (chunks.map .bytes)).1 = after (cs ++ ds) q ∧
      itemsOf cs ++ ((after cs p).feed (chunks.map .bytes)).2 = itemsOf (cs ++ ds) := by
  induction chunks generalizing cs ds p with
  | nil =>
    obtain ⟨rfl, rfl⟩ := Utf8.Reading.text.inj hread
    rw [List.append_nil]
    exact ⟨rfl, List.append_nil _⟩
  | cons bs chunks ih =>
    rw [List.flatten_cons, Utf8.read_append_iff] at hread
    obtain ⟨es, p', fs, hes, hfs, rfl⟩ := hread
    obtain ⟨hstate, hitems⟩ := hds.left.receive_after hp hes
    rw [← List.append_assoc] at hds ⊢
    rw [List.map_cons, feed, ← List.append_assoc, hitems, hstate]
    exact ih hds (Utf8.unfinished_of_read hp hes) hfs

theorem CleanBreaks.decode_eq {chunks : List (List UInt8)} (hcs : CleanBreaks cs)
    (hread : Utf8.read [] chunks.flatten = .text cs q) :
    decode (chunks.map .bytes) = itemsOf cs ++ (after cs q).finish := by
  obtain ⟨hstate, hitems⟩ := @CleanBreaks.feed_after [] cs [] q chunks hcs Utf8.unfinished_nil hread
  rw [decode_eq_feed]
  exact congrArg₂ (fun (s : EventStream) items => items ++ s.finish) hstate hitems

/-- Replaces each carriage return with a line feed by the line feed alone, byte by byte. -/
def unixLines : List UInt8 → List UInt8
  | [] => []
  | 0x0D :: 0x0A :: rest => 0x0A :: unixLines rest
  | b :: rest => b :: unixLines rest

theorem unixLines_cons {b : UInt8} (h : b = 0x0D → bs.head? ≠ some 0x0A) :
    unixLines (b :: bs) = b :: unixLines bs := by
  rw [unixLines.eq_def]
  split
  · simp_all
  · next heq =>
    obtain ⟨rfl, rfl⟩ := List.cons.inj heq
    simp at h
  · next heq =>
    obtain ⟨rfl, rfl⟩ := List.cons.inj heq
    rfl

theorem unixLines_append {front : List UInt8} (h : 0x0D ∉ front) (bs : List UInt8) :
    unixLines (front ++ bs) = front ++ unixLines bs := by
  induction front with
  | nil => rfl
  | cons b front ih =>
    rw [List.mem_cons, not_or] at h
    obtain ⟨hb, hfront⟩ := h
    rw [List.cons_append, unixLines_cons (fun he => absurd he.symm hb), ih hfront]
    rfl

theorem encode_cons (c : Char) (cs : List Char) (bs : List UInt8) :
    Utf8.encode (c :: cs) ++ bs = String.utf8EncodeChar c ++ (Utf8.encode cs ++ bs) := by
  simp [Utf8.encode]

theorem head?_encode_append {tail : List UInt8} (htail : ∀ x ∈ tail, 0x80 ≤ x.toNat)
    (h : (Utf8.encode cs ++ tail).head? = some 0x0A) : cs.head? = some '\n' := by
  cases cs with
  | nil =>
    have hle := htail 0x0A (List.mem_of_head? h)
    simp at hle
  | cons c cs =>
    obtain ⟨front, last, he, -⟩ := Utf8.utf8EncodeChar_eq c
    have hmem : 0x0A ∈ String.utf8EncodeChar c := by
      rw [encode_cons] at h
      cases front <;> simp_all
    obtain ⟨rfl, -⟩ := Utf8.eq_singleton_of_mem hmem (by decide)
    rfl

theorem unixLines_encode_append {tail : List UInt8} (htail : ∀ x ∈ tail, 0x80 ≤ x.toNat)
    (cs : List Char) :
    unixLines (Utf8.encode cs ++ tail) = Utf8.encode (normalize cs) ++ tail := by
  fun_induction normalize cs with
  | case1 =>
    have hmem : 0x0D ∉ tail := fun hm => absurd (htail _ hm) (by decide)
    simpa [Utf8.encode, unixLines] using unixLines_append hmem []
  | case2 rest ih =>
    rw [encode_cons, encode_cons, encode_cons, ← ih]
    rfl
  | case3 c rest hc ih =>
    rw [encode_cons, encode_cons, ← ih]
    by_cases hr : c = '\r'
    · subst hr
      have hhead : (Utf8.encode rest ++ tail).head? ≠ some 0x0A := by
        intro hh
        obtain ⟨rest', rfl⟩ := List.head?_eq_some_iff.mp (head?_encode_append htail hh)
        exact hc rest' rfl rfl
      exact unixLines_cons fun _ => hhead
    · refine unixLines_append (fun hm => hr ?_) _
      exact (Utf8.eq_singleton_of_mem hm (by decide)).1

theorem CleanBreaks.of_encode (h : ¬ [0x0D, 0x0D, 0x0A] <:+: Utf8.encode cs ++ bs) :
    CleanBreaks cs := by
  rintro ⟨as, zs, rfl⟩
  refine h ⟨Utf8.encode as, Utf8.encode zs ++ bs, ?_⟩
  simp [Utf8.encode, List.flatMap_append]
  rfl

/-- The items of an event stream depend neither on how its bytes are cut nor on whether its lines
end with carriage returns and line feeds or with line feeds alone. -/
theorem decode_chunks {whole : List UInt8} {chunks : List (List UInt8)}
    (htext : Utf8.IsOpenText whole) (hreturns : ¬ [0x0D, 0x0D] <:+: whole)
    (hchunks : chunks.flatten = whole) :
    decode (chunks.map .bytes) = decode [.bytes whole] ∧
      decode (chunks.map .bytes) = decode [.bytes (unixLines whole)] := by
  obtain ⟨cs, tail, c, rfl, hprefix, hne⟩ := htext
  have hcs : CleanBreaks cs := by
    apply CleanBreaks.of_encode
    exact fun hi => hreturns (List.IsInfix.trans ⟨[], [0x0A], rfl⟩ hi)
  have htail : Unfinished tail := Utf8.unfinished_of_prefix hprefix hne
  have hread : Utf8.read [] chunks.flatten = .text cs tail := by
    rw [hchunks, Utf8.read_encode cs htail]
  rw [hcs.decode_eq hread]
  constructor
  · have hone : Utf8.read [] [Utf8.encode cs ++ tail].flatten = .text cs tail := by
      simpa using Utf8.read_encode cs htail
    exact (hcs.decode_eq hone).symm
  · have hlines : unixLines (Utf8.encode cs ++ tail) = Utf8.encode (normalize cs) ++ tail :=
      unixLines_encode_append (fun x hx => Utf8.le_toNat_of_mem_prefix hprefix hne hx) cs
    have hone : Utf8.read [] [unixLines (Utf8.encode cs ++ tail)].flatten =
        .text (normalize cs) tail := by
      rw [hlines]
      simpa using Utf8.read_encode (normalize cs) htail
    have hnormal : CleanBreaks (normalize cs) := cleanBreaks_of_lineFeeds hcs.not_infix_normalize
    have hsame := (hnormal.decode_eq hone).symm
    rwa [itemsOf, after, hcs.normalize_normalize] at hsame

/-- The body is cut within a character, between a carriage return and its line feed, and before
the rest of a character that never comes. -/
theorem decode_chunks_euro :
    let whole := Utf8.encode ['d', 'a', 't', 'a', ':', '€', '\r', '\n', '\r', '\n'] ++ [0xE2, 0x82]
    let chunks : List (List UInt8) :=
      [[0x64, 0x61, 0x74, 0x61, 0x3A, 0xE2], [], [0x82, 0xAC, 0x0D], [0x0A, 0x0D],
        [0x0A, 0xE2, 0x82]]
    Utf8.IsOpenText whole ∧ ¬ [0x0D, 0x0D] <:+: whole ∧ chunks.flatten = whole ∧
      decode (chunks.map .bytes) = decode [.bytes whole] ∧
      decode (chunks.map .bytes) = decode [.bytes (unixLines whole)] := by
  intro whole chunks
  have htext : Utf8.IsOpenText whole := ⟨_, [0xE2, 0x82], '€', rfl, by decide, by decide⟩
  have hreturns : ¬ [0x0D, 0x0D] <:+: whole := by decide
  have hchunks : chunks.flatten = whole := by decide
  exact ⟨htext, hreturns, hchunks, decode_chunks htext hreturns hchunks⟩

end Parley.Provider.EventStream
