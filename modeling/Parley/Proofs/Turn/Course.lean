import Parley.Proofs.Archive.Blocks
import Parley.Proofs.Turn.Step

/-! # The course of a turn

A turn writes to the transcript of its session twice at most: what the user says, and after it the
reply. A turn of another session, and a turn that is over, leave the transcript alone.
-/

namespace Parley

namespace Turn

def Harmless (id : SessionId) (t : Turn) : Prop :=
  match t.stage with
  | .answered _ => True
  | .streaming _ relay => relay.session ≠ id ∨ relay.stage.isOver = true
  | _ => t.session ≠ id

end Turn

namespace Relay

/-- The reader of a relay is there, and does not see the channel closed before the relay is over. -/
structure Listened (r : Relay) : Prop where
  receiverOpen : r.sink.receiverOpen = true
  readerGone : r.readerGone = false
  closed : r.sink.senderOpen = false → r.stage.isOver = true

variable {cancelled : Bool} {r r' : Relay} {a a' : Archive}

theorem Listened.move (h : r.Listened) (hm : Move cancelled r a r' a') : r'.Listened := by
  by_cases ho : r.stage.isOver = true
  · obtain ⟨-, o, -, rfl⟩ := hm.of_isOver ho
    exact ⟨h.receiverOpen, h.readerGone, fun _ => rfl⟩
  · have hsender : r.sink.senderOpen = true := by
      by_contra hc
      exact ho (h.closed (by simpa using hc))
    suffices hopen : r'.sink.receiverOpen = true ∧ r'.readerGone = false ∧
        r'.sink.senderOpen = true from
      ⟨hopen.1, hopen.2.1, fun hc => by simp [hopen.2.2] at hc⟩
    cases hm with
    | skip _ hg => simp [h.readerGone] at hg
    | loseReader _ _ _ hr => simp [Channel.send_eq_closed_iff, h.receiverOpen] at hr
    | pass _ hg _ hr =>
      obtain ⟨hreceiver, -, rfl⟩ := Channel.send_eq_sent_iff.mp hr
      simp [hreceiver, hg, hsender]
    | withdraw => simpa using ⟨h.receiverOpen, h.readerGone, hsender⟩
    | finish hs => simp [hs, Stage.isOver] at ho
    | _ => exact ⟨h.receiverOpen, h.readerGone, hsender⟩

theorem Listened.setSource (h : r.Listened) (source : Channel Increment) :
    { r with source }.Listened :=
  ⟨h.receiverOpen, h.readerGone, h.closed⟩

theorem Move.harmless {id : SessionId} (hm : Move cancelled r a r' a')
    (h : r.session ≠ id ∨ r.stage.isOver = true) :
    (r'.session ≠ id ∨ r'.stage.isOver = true) ∧ a'.find? id = a.find? id := by
  rcases h with h | h
  · refine ⟨.inl (hm.session_eq ▸ h), ?_⟩
    rcases hm.archive_cases with ⟨rfl, -⟩ | ⟨-, -, text, rfl⟩
    · rfl
    · exact Archive.find?_of_append rfl h
  · obtain ⟨rfl, o, -, rfl⟩ := hm.of_isOver h
    exact ⟨.inr rfl, rfl⟩

end Relay

namespace Service

variable {s s' : Service} {t t' : Turn} {id : SessionId} {said : List (String × Bool)}
  {lines : List String}

theorem Shows.find?_eq {m : Message} {a b : Archive} {messages : List Message}
    (h : s.Shows id m a messages b) (j : SessionId) : b.find? j = a.find? j := by
  rw [Shows] at h
  split at h
  · rw [h.2]
  · obtain ⟨tr, hg, -⟩ := h
    exact Archive.find?_of_get hg j

theorem Move.harmless (hm : Move s t t' s') (h : t.Harmless id) :
    t'.Harmless id ∧ s'.archive.find? id = s.archive.find? id := by
  rw [Turn.Harmless] at h
  cases hm with
  | call hm =>
    cases hm with
    | unheard hs ha =>
      rw [hs] at h
      exact ⟨trivial, Archive.find?_of_append ha h⟩
    | unread hs ha _ hb =>
      rw [hs] at h
      exact ⟨trivial, (Archive.find?_of_get hb id).trans (Archive.find?_of_append ha h)⟩
    | call hs ha hb =>
      rw [hs] at h
      exact ⟨h, (hb.find?_eq id).trans (Archive.find?_of_append ha h)⟩
    | reply hs =>
      rw [hs] at h
      exact ⟨h, rfl⟩
    | stream hs =>
      rw [hs] at h
      exact ⟨.inl h, rfl⟩
    | refuse | fail | withdraw => exact ⟨trivial, rfl⟩
    | record hs _ ha | lose hs _ ha =>
      rw [hs] at h
      exact ⟨trivial, Archive.find?_of_append ha h⟩
  | feed hs =>
    rw [hs] at h
    exact ⟨h, rfl⟩
  | relay hs hr =>
    rw [hs] at h
    exact hr.harmless h

/-- What the user says with the next step of a turn, and whether the store takes it. -/
def hearing (s : Service) (t : Turn) : List (String × Bool) :=
  match t.stage with
  | .asked text => [(text, (s.archive.append t.session .user text).1.isOk)]
  | _ => []

def kept (said : List (String × Bool)) : List String :=
  (said.filter (·.2)).map (·.1)

/-- What was said in a session and what is in its transcript, at every stage of its turn. -/
def Course (id : SessionId) (a : Archive) (said : List (String × Bool)) (lines : List String) :
    Turn.Stage → Prop
  | .asked text => said.map (·.1) ++ [text] = lines ∧ a.InBlocks id (kept said) false
  | .generating .. | .replied _ => said.map (·.1) = lines ∧ a.InBlocks id (kept said) true
  | .answered _ => said.map (·.1) = lines ∧ a.InBlocks id (kept said) false
  | .streaming _ relay => said.map (·.1) = lines ∧
    a.InBlocks id (kept said) relay.stage.mayRecord ∧ relay.session = id ∧ relay.Listened

@[simp] theorem kept_concat_true (text : String) :
    kept (said ++ [(text, true)]) = kept said ++ [text] := by
  simp [kept]

@[simp] theorem kept_concat_false (text : String) : kept (said ++ [(text, false)]) = kept said := by
  simp [kept]

theorem Course.of_find?_eq {a b : Archive} {stage : Turn.Stage} (h : Course id a said lines stage)
    (hb : b.find? id = a.find? id) : Course id b said lines stage := by
  cases stage with
  | streaming => exact ⟨h.1, h.2.1.of_find?_eq hb, h.2.2⟩
  | _ => exact ⟨h.1, h.2.of_find?_eq hb⟩

theorem CallMove.course (hm : CallMove s t t' s') (ht : t.session = id)
    (h : Course id s.archive said lines t.stage) :
    Course id s'.archive (said ++ s.hearing t) lines t'.stage := by
  subst ht
  cases hm with
  | @unheard text cause a hs ha =>
    rw [hs] at h
    have hhear : s.hearing t = [(text, false)] := by
      simp [hearing, hs, ha, Except.isOk, Except.toBool]
    rw [hhear]
    exact ⟨by simpa using h.1, by simpa using h.2.of_find?_eq (Archive.append_error ha t.session)⟩
  | @unread text m a b cause hs ha hc hb =>
    rw [hs] at h
    have hhear : s.hearing t = [(text, true)] := by
      simp [hearing, hs, ha, Except.isOk, Except.toBool]
    rw [hhear]
    have hblocks := (h.2.hear (.of_append_ok ha)).close.of_find?_eq
      (Archive.find?_of_get hb t.session)
    exact ⟨by simpa using h.1, by simpa using hblocks⟩
  | @call text m a b messages p g hs ha hb hg =>
    rw [hs] at h
    have hhear : s.hearing t = [(text, true)] := by
      simp [hearing, hs, ha, Except.isOk, Except.toBool]
    rw [hhear]
    have hblocks := (h.2.hear (.of_append_ok ha)).of_find?_eq (hb.find?_eq t.session)
    exact ⟨by simpa using h.1, by simpa using hblocks⟩
  | reply hs =>
    rw [hs] at h
    have hhear : s.hearing t = [] := by simp [hearing, hs]
    rw [hhear, List.append_nil]
    exact h
  | @stream p due plan hs =>
    rw [hs] at h
    have hhear : s.hearing t = [] := by simp [hearing, hs]
    have hlistened : (s.relayFor t plan).Listened := ⟨rfl, rfl, fun hc => by cases hc⟩
    rw [hhear, List.append_nil]
    exact ⟨h.1, h.2, rfl, hlistened⟩
  | refuse hs | fail hs | withdraw hs =>
    rw [hs] at h
    simpa [hearing, hs] using ⟨h.1, h.2.close⟩
  | @record reply m a hs hc ha =>
    rw [hs] at h
    have hblocks := h.2.reply reply
    rw [ha] at hblocks
    simpa [hearing, hs] using ⟨h.1, hblocks⟩
  | @lose reply cause a hs hc ha =>
    rw [hs] at h
    have hblocks := h.2.reply reply
    rw [ha] at hblocks
    simpa [hearing, hs] using ⟨h.1, hblocks⟩

theorem Move.course (hm : Move s t t' s') (ht : t.session = id)
    (h : Course id s.archive said lines t.stage) :
    Course id s'.archive (said ++ s.hearing t) lines t'.stage := by
  cases hm with
  | call hm => exact hm.course ht h
  | feed hs =>
    rw [hs] at h
    obtain ⟨hlines, hblocks, hid, hlistened⟩ := h
    simpa [hearing, hs] using ⟨hlines, hblocks, hid, hlistened.setSource _⟩
  | @relay _ r r' a hs hr =>
    rw [hs] at h
    obtain ⟨hlines, hblocks, hid, hlistened⟩ := h
    have hblocks' : a.InBlocks id (kept said) r'.stage.mayRecord := by
      rcases hr.archive_cases with ⟨rfl, hmay⟩ | ⟨hmay, hdone, text, rfl⟩
      · cases hrecord : r'.stage.mayRecord with
        | true => rwa [hmay hrecord] at hblocks
        | false => exact hblocks.close
      · rw [hmay] at hblocks
        rw [hdone, hid]
        exact hblocks.reply text
    simpa [hearing, hs] using ⟨hlines, hblocks', hr.session_eq.trans hid, hlistened.move hr⟩

end Service

end Parley
