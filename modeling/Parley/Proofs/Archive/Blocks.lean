import Parley.Proofs.Archive.Growth

/-! # Transcripts in blocks

A transcript in which every reply directly follows what it replies to is a row of blocks: something
the user said, and the reply to it, if there is one.
-/

namespace Parley

structure Block where
  text : String
  reply : Option String := none
  deriving DecidableEq, Repr

namespace Block

def pairs (b : Block) : List (Role × String) :=
  (.user, b.text) :: b.reply.toList.map (.assistant, ·)

variable {blocks : List Block} {pre post : List (Role × String)} {text : String}

theorem user_of_assistant (h : blocks.flatMap pairs = pre ++ (.assistant, text) :: post) :
    ∃ before b, b ∈ blocks ∧ b.reply = some text ∧ pre = before ++ [(.user, b.text)] := by
  induction blocks generalizing pre with
  | nil => simp at h
  | cons b blocks ih =>
    have hrest {rest : List (Role × String)}
        (hr : blocks.flatMap pairs = rest ++ (.assistant, text) :: post) :
        ∃ before c, c ∈ b :: blocks ∧ c.reply = some text ∧ rest = before ++ [(.user, c.text)] := by
      obtain ⟨before, c, hc, ht, hp⟩ := ih hr
      exact ⟨before, c, List.mem_cons_of_mem b hc, ht, hp⟩
    rw [List.flatMap_cons, pairs] at h
    rcases pre with _ | ⟨x, pre⟩
    · simp at h
    · simp only [List.cons_append, List.cons.injEq] at h
      obtain ⟨rfl, h⟩ := h
      cases hr : b.reply with
      | none =>
        obtain ⟨before, c, hc, ht, rfl⟩ := @hrest pre (by simpa [hr] using h)
        exact ⟨_ :: before, c, hc, ht, rfl⟩
      | some reply =>
        simp only [hr, Option.toList_some, List.map_cons, List.map_nil, List.cons_append,
          List.nil_append] at h
        rcases pre with _ | ⟨y, pre⟩
        · simp only [List.nil_append, List.cons.injEq, Prod.mk.injEq] at h
          exact ⟨[], b, List.mem_cons_self, hr.trans (by rw [h.1.2]), rfl⟩
        · simp only [List.cons_append, List.cons.injEq] at h
          obtain ⟨rfl, h⟩ := h
          obtain ⟨before, c, hc, ht, rfl⟩ := hrest h
          exact ⟨_ :: _ :: before, c, hc, ht, rfl⟩

theorem countP_pairs (blocks : List Block) :
    (blocks.flatMap pairs).countP (·.1 = .assistant) = blocks.countP (·.reply.isSome) := by
  induction blocks with
  | nil => rfl
  | cons b blocks ih =>
    rw [List.flatMap_cons, List.countP_append, ih, List.countP_cons]
    cases hr : b.reply <;> simp [pairs, hr]
    omega

end Block

theorem Transcript.turnCount_eq (t : Transcript) :
    t.turnCount = t.pairs.countP (·.1 = .assistant) := by
  simp [turnCount, pairs, List.countP_map, Function.comp_def]

namespace Archive

/-- The transcript of a session consists of blocks with these texts of the user. If it is open, the
last of them has no reply yet. -/
def InBlocks (a : Archive) (id : SessionId) (texts : List String) (isOpen : Bool) : Prop :=
  ∃ t blocks, a.find? id = some t ∧ t.pairs = blocks.flatMap Block.pairs ∧
    blocks.map Block.text = texts ∧ (isOpen = true → ∃ before text, blocks = before ++ [{ text := text }])

variable {a b : Archive} {id : SessionId} {texts : List String} {isOpen : Bool} {text : String}

theorem InBlocks.of_find?_eq (h : a.InBlocks id texts isOpen) (hb : b.find? id = a.find? id) :
    b.InBlocks id texts isOpen := by
  obtain ⟨t, blocks, ht, h⟩ := h
  exact ⟨t, blocks, hb.trans ht, h⟩

theorem InBlocks.close (h : a.InBlocks id texts isOpen) : a.InBlocks id texts false := by
  obtain ⟨t, blocks, ht, hp, htexts, -⟩ := h
  exact ⟨t, blocks, ht, hp, htexts, fun h => by cases h⟩

theorem InBlocks.hear (h : a.InBlocks id texts isOpen) (hb : a.Grew b id [(.user, text)]) :
    b.InBlocks id (texts ++ [text]) true := by
  obtain ⟨t, blocks, ht, hp, htexts, -⟩ := h
  obtain ⟨u, hu, hup⟩ := hb.pairs ht
  exact ⟨u, blocks ++ [{ text := text }], hu, by simp [hup, hp, Block.pairs], by simp [htexts],
    fun _ => ⟨blocks, text, rfl⟩⟩

/-- An open transcript takes one reply, whether the store keeps it or not. -/
theorem InBlocks.reply (h : a.InBlocks id texts true) (text : String) :
    (a.append id .assistant text).2.InBlocks id texts false := by
  obtain ⟨t, blocks, ht, hp, htexts, hopen⟩ := h
  obtain ⟨u, hu, hup⟩ := (a.grew_append id .assistant text).pairs ht
  rw [addition] at hup
  split at hup
  · obtain ⟨before, said, rfl⟩ := hopen rfl
    exact ⟨u, before ++ [{ text := said, reply := some text }], hu,
      by simp [hup, hp, Block.pairs], by simpa using htexts, fun h => by cases h⟩
  · exact ⟨u, blocks, hu, by simpa [hp] using hup, htexts, fun h => by cases h⟩

end Archive

end Parley
