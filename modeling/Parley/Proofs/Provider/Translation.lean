import Parley.Proofs.Increments
import Parley.Proofs.Provider.Pumping
import Parley.Proofs.Runs

/-! # The pump translates its events

The pump, the reader of its channel and the turn that may be cancelled act in any order. What the
pump sends is the translation of its events, as far as it gets: it gets to the end unless the reader
leaves or the turn is cancelled, and it closes the channel with the increment that ends the reply.
-/

namespace Parley.Provider.Pump

open Increment (Calm)

/-- The increments for which events stand. Texts are passed on, and the first event that ends the
reply is the last that counts. -/
def translation : List Item → List Increment
  | [] => []
  | .ok (.textDelta text) :: rest => .ofText text :: translation rest
  | .ok .messageStop :: _ => [.last ""]
  | .ok (.error kind message) :: _ =>
    [.failed (.stream message (.error (.api 200 kind message none)))]
  | .error e :: _ => [.failed (.stream "provider stream broke" (.error e))]
  | .ok .messageStart :: rest | .ok .ping :: rest | .ok (.messageDelta _) :: rest
  | .ok (.other _) :: rest => translation rest

def endsReply : Item → Bool
  | .ok .messageStop | .ok (.error ..) | .error _ => true
  | .ok (.textDelta _) | .ok .messageStart | .ok .ping | .ok (.messageDelta _)
  | .ok (.other _) => false

variable {items : List Item} {p p' : Pump} {cancelled : Bool} {i : Increment}

theorem increments_eq_translation (items : List Item) : increments items = translation items := by
  fun_induction translation items with
  | case1 => rfl
  | case2 text rest ih =>
    have hgoes : (Increment.ofText text).isTerminal = false := rfl
    simp [increments, increment?, hgoes, ih]
  | case3 | case4 | case5 => rfl
  | case6 rest ih | case7 rest ih | case8 _ rest ih | case9 _ rest ih => exact ih

theorem calm_dropLast_translation (items : List Item) : Calm (translation items).dropLast := by
  fun_induction translation items with
  | case1 => exact Increment.calm_nil
  | case2 text rest ih =>
    by_cases hrest : translation rest = []
    · rw [hrest]
      exact Increment.calm_nil
    · rw [List.dropLast_cons_of_ne_nil hrest]
      exact List.forall_mem_cons.mpr ⟨rfl, ih⟩
  | case3 | case4 | case5 => exact Increment.calm_nil
  | case6 rest ih | case7 rest ih | case8 _ rest ih | case9 _ rest ih => exact ih

theorem exists_terminal_of_endsReply {x : Item} (hx : x ∈ items) (he : endsReply x = true) :
    ∃ i ∈ translation items, i.isTerminal = true := by
  fun_induction translation items with
  | case1 => cases hx
  | case2 text rest ih =>
    rcases List.mem_cons.mp hx with rfl | hx
    · cases he
    · obtain ⟨i, hi, hterminal⟩ := ih hx
      exact ⟨i, List.mem_cons_of_mem _ hi, hterminal⟩
  | case3 | case4 | case5 => exact ⟨_, List.mem_singleton_self _, rfl⟩
  | case6 rest ih | case7 rest ih | case8 _ rest ih | case9 _ rest ih =>
    rcases List.mem_cons.mp hx with rfl | hx
    · cases he
    · exact ih hx

theorem eq_translation_of_terminal {before after : List Increment}
    (h : before ++ i :: after <+: translation items) (hi : i.isTerminal = true) :
    after = [] ∧ before ++ [i] = translation items := by
  obtain ⟨rest, hrest⟩ := h
  have hlast : after ++ rest = [] := by
    by_contra hne
    have hmem : i ∈ (translation items).dropLast := by
      rw [← hrest, List.append_assoc, List.cons_append,
        List.dropLast_append_of_ne_nil (List.cons_ne_nil _ _), List.dropLast_cons_of_ne_nil hne]
      simp
    simp [calm_dropLast_translation items i hmem] at hi
  obtain ⟨rfl, rfl⟩ := List.append_eq_nil_iff.mp hlast
  exact ⟨rfl, by simpa using hrest⟩

/-- A pump with a reader, and with what has passed between them. -/
structure Scene where
  pump : Pump
  cancelled : Bool := false
  sent : List Increment := []
  received : List Increment := []
  sawEnd : Bool := false

namespace Scene

inductive Act where
  | pump
  | receive
  | leave
  | cancel
  deriving DecidableEq, Repr

def start (items : List Item) (capacity : Nat) : Scene where
  pump := .start items capacity

/-- The pump has made a step. What is new in the channel was sent. -/
def pumped (w : Scene) (q : Pump) : Scene :=
  { w with pump := q, sent := w.sent ++ q.sink.items.drop w.pump.sink.items.length }

def receive (w : Scene) : Option Scene :=
  if w.pump.sink.receiverOpen then
    match w.pump.sink.receive with
    | .item i sink => some { w with received := w.received ++ [i], pump := { w.pump with sink } }
    | .closed => some { w with sawEnd := true }
    | .empty => none
  else none

def step (w : Scene) : Act → Option Scene
  | .pump => (w.pump.step w.cancelled).map w.pumped
  | .receive => w.receive
  | .leave => some { w with pump := { w.pump with sink := w.pump.sink.closeReceiver } }
  | .cancel => some { w with cancelled := true }

def play (w : Scene) (acts : List Act) : Option Scene :=
  acts.foldlM step w

inductive Next (w : Scene) : Scene → Prop where

  | pump {q : Pump} : Move w.pump q → Next w (w.pumped q)

  | stop : w.cancelled = true → w.pump.stage = .awaiting → Next w (w.pumped w.pump.finish)

  | receive {i : Increment} {sink : Channel Increment} : w.pump.sink.receiverOpen = true →
      w.pump.sink.receive = .item i sink →
      Next w { w with received := w.received ++ [i], pump := { w.pump with sink } }

  | seeEnd : w.pump.sink.receiverOpen = true → w.pump.sink.receive = .closed →
      Next w { w with sawEnd := true }

  | leave : Next w { w with pump := { w.pump with sink := w.pump.sink.closeReceiver } }

  | cancel : Next w { w with cancelled := true }

variable {w w' : Scene} {q : Pump} {capacity : Nat} {acts : List Act}

theorem next_of_step {act : Act} (h : w.step act = some w') : Next w w' := by
  cases act with
  | pump =>
    obtain ⟨q, hq, rfl⟩ := Option.map_eq_some_iff.mp h
    rcases step_cases hq with hm | ⟨hc, hs, rfl⟩
    · exact .pump hm
    · exact .stop hc hs
  | receive =>
    simp only [step, Scene.receive] at h
    split at h
    · split at h
      · obtain rfl := Option.some.inj h
        exact .receive ‹_› ‹_›
      · obtain rfl := Option.some.inj h
        exact .seeEnd ‹_› ‹_›
      · cases h
    · cases h
  | leave =>
    obtain rfl := Option.some.inj h
    exact .leave
  | cancel =>
    obtain rfl := Option.some.inj h
    exact .cancel

/-- What has been sent and what is still unsent make up the translation, as long as nothing is in
the way of the pump. -/
structure Translates (items : List Item) (w : Scene) : Prop where
  sent_prefix : w.sent <+: translation items
  calm : w.pump.stage ≠ .ended → Calm w.sent
  whole : w.pump.stage ≠ .ended ∨ w.pump.sink.receiverOpen = true ∧ w.cancelled = false →
    w.sent ++ w.pump.unsent = translation items
  closed : w.pump.sink.senderOpen = false ↔ w.pump.stage = .ended

structure Reads (items : List Item) (w : Scene) : Prop where
  room : 0 < w.pump.sink.capacity
  emptied : w.pump.sink.receiverOpen = false → w.pump.sink.items = []
  received_prefix : w.received <+: w.sent
  inOrder : w.pump.sink.receiverOpen = true → w.received ++ w.pump.sink.items = w.sent
  seen : w.sawEnd = true → w.pump.stage = .ended ∧ w.pump.sink.items = [] ∧ w.received = w.sent ∧
    (w.cancelled = false → w.sent = translation items)

theorem translates_start (items : List Item) (capacity : Nat) :
    (start items capacity).Translates items where
  sent_prefix := List.nil_prefix
  calm _ := Increment.calm_nil
  whole _ := increments_eq_translation items
  closed := by simp [start, Pump.start, Channel.ofCapacity]

theorem sent_pumped_of_eq (h : q.sink.items = w.pump.sink.items) :
    (w.pumped q).sent = w.sent := by
  simp [pumped, h]

theorem sent_pumped_of_concat (h : q.sink.items = w.pump.sink.items ++ [i]) :
    (w.pumped q).sent = w.sent ++ [i] := by
  simp [pumped, h]

theorem sent_append_unsent (hm : Move w.pump q)
    (hq : q.stage ≠ .ended ∨ q.sink.receiverOpen = true) :
    (w.pumped q).sent ++ q.unsent = w.sent ++ w.pump.unsent := by
  have hsame (h : q.sink.items = w.pump.sink.items) (hu : w.pump.unsent = q.unsent) :
      (w.pumped q).sent ++ q.unsent = w.sent ++ w.pump.unsent := by
    rw [sent_pumped_of_eq h, hu]
  have hmore {i : Increment} (h : q.sink.items = w.pump.sink.items ++ [i])
      (hu : w.pump.unsent = i :: q.unsent) :
      (w.pumped q).sent ++ q.unsent = w.sent ++ w.pump.unsent := by
    rw [sent_pumped_of_concat h, hu, List.append_assoc, List.singleton_append]
  cases hm with
  | @skip x rest hs hi hx =>
    have hunsent : unsent { w.pump with items := rest } = increments rest := unsent_of_awaiting hs
    exact hsame rfl (by rw [unsent_of_awaiting hs, hi, increments, hx, hunsent])
  | take hs hi hx =>
    refine hsame rfl ?_
    rw [unsent_of_awaiting hs, hi, increments, hx]
    rfl
  | hangUp hs hi =>
    refine hsame rfl ?_
    rw [unsent_of_awaiting hs, hi]
    rfl
  | send hs hr hi | sendLast hs hr hi =>
    obtain ⟨-, -, rfl⟩ := Channel.send_eq_sent_iff.mp hr
    refine hmore rfl ?_
    rw [unsent_of_sending hs, hi]
    rfl
  | giveUp hs hr =>
    have hclosed : w.pump.sink.receiverOpen = false := Channel.send_eq_closed_iff.mp hr
    rcases hq with hq | hq
    · exact absurd rfl hq
    · exact absurd (hclosed.symm.trans hq) Bool.false_ne_true

theorem Translates.pump (h : w.Translates items) (hm : Move w.pump q) :
    (w.pumped q).Translates items := by
  have hs : w.pump.stage ≠ .ended := hm.ne_ended
  have hwhole := h.whole (.inl hs)
  have hsender : w.pump.sink.senderOpen = true := by simpa using mt h.closed.mp hs
  refine ⟨?_, fun hq => ?_, fun hq => ?_, hm.senderOpen_iff hsender⟩
  · rcases hm.sink_cases with hsink | ⟨i, hi, -, hsink, -⟩
    · exact sent_pumped_of_eq hsink ▸ h.sent_prefix
    · rw [sent_pumped_of_concat hsink, ← hwhole, List.prefix_append_right_inj,
        unsent_of_sending hi]
      split
      · exact List.prefix_rfl
      · exact List.prefix_append [i] _
  · rcases hm.sink_cases with hsink | ⟨i, -, -, hsink, hgoes⟩
    · exact sent_pumped_of_eq hsink ▸ h.calm hs
    · exact sent_pumped_of_concat hsink ▸ (h.calm hs).concat (hgoes hq)
  · rw [← hwhole]
    exact sent_append_unsent hm (hq.imp_right And.left)

theorem Translates.next (h : w.Translates items) (hn : Next w w') : w'.Translates items := by
  cases hn with
  | pump hm => exact h.pump hm
  | stop hc hs =>
    have hsent : (w.pumped w.pump.finish).sent = w.sent := sent_pumped_of_eq rfl
    refine ⟨hsent ▸ h.sent_prefix, fun hn => absurd rfl hn, fun hq => ?_, by
      simp [pumped, finish, Channel.closeSender]⟩
    rcases hq with hq | ⟨-, hq⟩
    · exact absurd rfl hq
    · exact absurd (hc.symm.trans hq) (by simp)
  | receive hopen hr =>
    obtain ⟨-, hsink⟩ := Channel.receive_eq_item_iff.mp hr
    rw [hsink]
    exact ⟨h.sent_prefix, h.calm, h.whole, h.closed⟩
  | seeEnd => exact ⟨h.sent_prefix, h.calm, h.whole, h.closed⟩
  | leave =>
    refine ⟨h.sent_prefix, h.calm, fun hq => h.whole (.inl ?_), h.closed⟩
    rcases hq with hq | ⟨hq, -⟩
    · exact hq
    · cases hq
  | cancel =>
    refine ⟨h.sent_prefix, h.calm, fun hq => h.whole (.inl ?_), h.closed⟩
    rcases hq with hq | ⟨-, hq⟩
    · exact hq
    · cases hq

/-- A pump that was left alone has sent the whole translation when it closes the channel. -/
theorem Translates.sent_eq (h : w.Translates items) (hc : w.pump.sink.senderOpen = false)
    (hopen : w.pump.sink.receiverOpen = true) (hn : w.cancelled = false) :
    w.sent = translation items := by
  have hwhole := h.whole (.inr ⟨hopen, hn⟩)
  rwa [unsent, h.closed.mp hc, List.append_nil] at hwhole

/-- Nothing is sent behind an increment that ends the reply, and the channel is closed with it. -/
theorem Translates.closed_behind_terminal (h : w.Translates items) {before after : List Increment}
    (hsent : w.sent = before ++ i :: after) (hi : i.isTerminal = true) :
    after = [] ∧ w.pump.sink.senderOpen = false := by
  refine ⟨(eq_translation_of_terminal (hsent ▸ h.sent_prefix) hi).1, ?_⟩
  rw [h.closed]
  by_contra hs
  have hcalm : i.isTerminal = false := h.calm hs i (by simp [hsent])
  exact absurd (hi.symm.trans hcalm) Bool.true_eq_false.mp

theorem Translates.closed_cases (h : w.Translates items) (hc : w.pump.sink.senderOpen = false) :
    (∃ i ∈ w.sent, i.isTerminal = true) ∨
      (∀ x ∈ items, endsReply x = false) ∧ w.sent = translation items ∨
      w.pump.sink.receiverOpen = false ∨ w.cancelled = true := by
  by_cases hopen : w.pump.sink.receiverOpen = true
  · by_cases hn : w.cancelled = true
    · exact .inr (.inr (.inr hn))
    have hsent := h.sent_eq hc hopen (by simpa using hn)
    by_cases hends : ∃ x ∈ items, endsReply x = true
    · obtain ⟨x, hx, he⟩ := hends
      exact .inl (hsent ▸ exists_terminal_of_endsReply hx he)
    · refine .inr (.inl ⟨fun x hx => ?_, hsent⟩)
      simpa using fun he => hends ⟨x, hx, he⟩
  · exact .inr (.inr (.inl (by simpa using hopen)))

theorem reads_start (items : List Item) (capacity : Nat) : (start items capacity).Reads items where
  room := Nat.le_max_left 1 capacity
  emptied _ := rfl
  received_prefix := List.nil_prefix
  inOrder _ := rfl
  seen h := by cases h

theorem Reads.pumped (h : w.Reads items) (hs : w.pump.stage ≠ .ended)
    (hsink : q.sink.capacity = w.pump.sink.capacity ∧
      q.sink.receiverOpen = w.pump.sink.receiverOpen)
    (hitems : q.sink.items = w.pump.sink.items ∨
      ∃ i, w.pump.sink.receiverOpen = true ∧ q.sink.items = w.pump.sink.items ++ [i]) :
    (w.pumped q).Reads items := by
  obtain ⟨hroom, hopen⟩ := hsink
  refine ⟨hroom ▸ h.room, fun hq => ?_, h.received_prefix.trans (List.prefix_append _ _),
    fun hq => ?_, fun hseen => absurd (h.seen hseen).1 hs⟩
  · have hleft : w.pump.sink.receiverOpen = false := hopen.symm.trans hq
    rcases hitems with hi | ⟨i, hi, -⟩
    · exact hi.trans (h.emptied hleft)
    · exact absurd (hleft.symm.trans hi) Bool.false_ne_true
  · have hall := h.inOrder (hopen.symm.trans hq)
    rcases hitems with hi | ⟨i, -, hi⟩
    · rw [sent_pumped_of_eq hi, ← hall]
      exact congrArg (w.received ++ ·) hi
    · rw [sent_pumped_of_concat hi, ← hall, List.append_assoc]
      exact congrArg (w.received ++ ·) hi

theorem Reads.next (ht : w.Translates items) (h : w.Reads items) (hn : Next w w') :
    w'.Reads items := by
  cases hn with
  | pump hm =>
    refine h.pumped hm.ne_ended hm.sink_eq (hm.sink_cases.imp_right ?_)
    rintro ⟨i, -, hopen, hi, -⟩
    exact ⟨i, hopen, hi⟩
  | stop _ hs => exact h.pumped (by simp [hs]) ⟨rfl, rfl⟩ (.inl rfl)
  | @receive i sink hopen hr =>
    obtain ⟨hi, hsink⟩ := Channel.receive_eq_item_iff.mp hr
    have hall := h.inOrder hopen
    rw [hi] at hall
    rw [hsink]
    refine ⟨h.room, fun hclosed => absurd (hclosed.symm.trans hopen) Bool.false_ne_true, ?_,
      fun _ => by simpa using hall, fun hseen => ?_⟩
    · exact ⟨sink.items, by simpa using hall⟩
    · simpa [hi] using (h.seen hseen).2.1
  | seeEnd hopen hr =>
    obtain ⟨hi, hsender⟩ := Channel.receive_eq_closed_iff.mp hr
    have hall := h.inOrder hopen
    rw [hi, List.append_nil] at hall
    exact ⟨h.room, h.emptied, h.received_prefix, h.inOrder, fun _ =>
      ⟨ht.closed.mp hsender, hi, hall, ht.sent_eq hsender hopen⟩⟩
  | leave =>
    refine ⟨h.room, fun _ => rfl, h.received_prefix, (by cases ·), fun hseen => ?_⟩
    obtain ⟨hs, -, hall, hsent⟩ := h.seen hseen
    exact ⟨hs, rfl, hall, hsent⟩
  | cancel =>
    refine ⟨h.room, h.emptied, h.received_prefix, h.inOrder, fun hseen => ?_⟩
    obtain ⟨hs, hi, hall, -⟩ := h.seen hseen
    exact ⟨hs, hi, hall, fun hc => by cases hc⟩

theorem reaches_play (hp : (start items capacity).play acts = some w) :
    w.Translates items ∧ w.Reads items :=
  keeps_foldlM (P := fun w => w.Translates items ∧ w.Reads items)
    (fun _ h hs => ⟨h.1.next (next_of_step hs), h.2.next h.1 (next_of_step hs)⟩) hp
    ⟨translates_start items capacity, reads_start items capacity⟩

def tasks : List Act := [.pump, .receive]

theorem gets_on (ht : w.Translates items) (h : w.Reads items)
    (hsender : w.pump.sink.senderOpen = true) :
    ∃ act ∈ tasks, ∃ w', w.step act = some w' ∧ w'.pump.toDo < w.pump.toDo := by
  by_cases hitems : w.pump.sink.items = []
  · have hs : w.pump.stage ≠ .ended := by
      intro hs
      simp [ht.closed.mpr hs] at hsender
    obtain ⟨q, hq⟩ := exists_step_of_uncancelled w.cancelled (exists_step hs hitems h.room)
    exact ⟨.pump, by simp [tasks], w.pumped q, by simp [step, hq], step_toDo_lt hq⟩
  · have hopen : w.pump.sink.receiverOpen = true := by simpa using mt h.emptied hitems
    obtain ⟨i, rest, hi⟩ := List.exists_cons_of_ne_nil hitems
    have hr : w.pump.sink.receive = .item i { w.pump.sink with items := rest } :=
      Channel.receive_eq_item_iff.mpr ⟨hi, rfl⟩
    refine ⟨.receive, by simp [tasks], _, by simp [step, Scene.receive, hopen, hr]; rfl, ?_⟩
    simp [toDo, hi]

theorem stays_of_task {act : Act} (hact : act ∈ tasks) (h : w.step act = some w') :
    w'.pump.sink.receiverOpen = w.pump.sink.receiverOpen ∧ w'.cancelled = w.cancelled := by
  cases act with
  | pump =>
    obtain ⟨q, hq, rfl⟩ := Option.map_eq_some_iff.mp h
    rcases step_cases hq with hm | ⟨-, -, rfl⟩
    · exact ⟨hm.sink_eq.2, rfl⟩
    · exact ⟨rfl, rfl⟩
  | receive =>
    simp only [step, Scene.receive] at h
    split at h
    · split at h
      · next hr =>
        obtain ⟨-, hsink⟩ := Channel.receive_eq_item_iff.mp hr
        obtain rfl := Option.some.inj h
        rw [hsink]
        exact ⟨rfl, rfl⟩
      · obtain rfl := Option.some.inj h
        exact ⟨rfl, rfl⟩
      · cases h
    · cases h
  | leave | cancel => simp [tasks] at hact

theorem exists_end (ht : w.Translates items) (h : w.Reads items) :
    ∃ acts w', (∀ act ∈ acts, act ∈ tasks) ∧ w.play acts = some w' ∧
      w'.pump.sink.senderOpen = false ∧ w'.Translates items ∧
      w'.pump.sink.receiverOpen = w.pump.sink.receiverOpen ∧ w'.cancelled = w.cancelled := by
  obtain ⟨acts, w', hacts, hplay, ⟨ht', -, hopen, hc⟩, hclosed⟩ :=
    exists_run (fun v : Scene => v.Translates items ∧ v.Reads items ∧
        v.pump.sink.receiverOpen = w.pump.sink.receiverOpen ∧ v.cancelled = w.cancelled)
      (fun v => v.pump.sink.senderOpen = false) (fun v => v.pump.toDo) (fun v hv hsender => by
        obtain ⟨ht, hr, hopen, hc⟩ := hv
        obtain ⟨act, hact, v', hv', hlt⟩ := gets_on ht hr (by simpa using hsender)
        obtain ⟨hopen', hc'⟩ := stays_of_task hact hv'
        have hnext := next_of_step hv'
        exact ⟨act, hact, v', hv', hlt, ht.next hnext, hr.next ht hnext, hopen'.trans hopen,
          hc'.trans hc⟩)
      ⟨ht, h, rfl, rfl⟩
  exact ⟨acts, w', hacts, hplay, hclosed, ht', hopen, hc⟩

/-- What the pump sends is the translation of its events up to some point, and all of it if the
reader stays and the turn is not cancelled. A terminal increment is sent once at most, and nothing
follows it; the channel is closed without one only if the events ended before the reply, if the
reader left or if the turn was cancelled. Until the channel is closed the pump or its reader can
always get on, and the end is never out of reach. -/
theorem translates_once {capacity : Nat} {acts : List Act} {w : Scene}
    (h : (start items capacity).play acts = some w) :
    w.sent <+: translation items ∧
    (w.pump.sink.senderOpen = false → w.pump.sink.receiverOpen = true → w.cancelled = false →
      w.sent = translation items) ∧
    (∀ before i after, w.sent = before ++ i :: after → i.isTerminal = true →
      after = [] ∧ w.pump.sink.senderOpen = false) ∧
    (w.pump.sink.senderOpen = false → (∃ i ∈ w.sent, i.isTerminal = true) ∨
      (∀ x ∈ items, endsReply x = false) ∧ w.sent = translation items ∨
      w.pump.sink.receiverOpen = false ∨ w.cancelled = true) ∧
    w.received <+: w.sent ∧
    (w.sawEnd = true → w.cancelled = false → w.received = translation items) ∧
    (w.pump.sink.senderOpen = true →
      (∃ act ∈ tasks, ∃ w', w.step act = some w' ∧ w'.pump.toDo < w.pump.toDo) ∧
      ∃ acts' w', (∀ act ∈ acts', act ∈ tasks) ∧ w.play acts' = some w' ∧
        w'.pump.sink.senderOpen = false ∧ (w.pump.sink.receiverOpen = true →
          w.cancelled = false → w'.sent = translation items)) := by
  obtain ⟨ht, hr⟩ := reaches_play h
  refine ⟨ht.sent_prefix, ht.sent_eq, fun before i after => ht.closed_behind_terminal,
    ht.closed_cases, hr.received_prefix, fun hseen hc => ?_,
    fun hsender => ⟨gets_on ht hr hsender, ?_⟩⟩
  · obtain ⟨-, -, hreceived, hsent⟩ := hr.seen hseen
    exact hreceived.trans (hsent hc)
  · obtain ⟨acts', w', hacts, hplay, hclosed, ht', hopen, hc⟩ := exists_end ht hr
    exact ⟨acts', w', hacts, hplay, hclosed, fun ho hn =>
      ht'.sent_eq hclosed (hopen.trans ho) (hc.trans hn)⟩

/-- The provider reports an error after a piece of text. The channel has room for one increment, and
the reader finds it closed behind the failure. A turn that is cancelled is over without one. -/
theorem translates_once_reported :
    let kind := some "overloaded_error"
    let items : List Item := [.ok .messageStart, .ok (.textDelta "Hel"), .ok .ping,
      .ok (.error kind "Overloaded"), .ok (.textDelta "lo")]
    (∃ w, (start items 1).play [.pump, .pump, .pump, .pump, .pump, .receive, .pump, .receive,
        .receive] = some w ∧ w.sawEnd = true ∧
      w.received = [.ofText "Hel",
        .failed (.stream "Overloaded" (.error (.api 200 kind "Overloaded" none)))]) ∧
    ∃ w, (start items 1).play [.pump, .pump, .pump, .cancel, .pump] = some w ∧
      w.pump.sink.senderOpen = false ∧ w.sent = [.ofText "Hel"] ∧ w.sent <+: translation items := by
  intro kind items
  constructor
  · obtain ⟨w, h, hseen, hc⟩ : ∃ w, (start items 1).play [.pump, .pump, .pump, .pump, .pump,
        .receive, .pump, .receive, .receive] = some w ∧ w.sawEnd = true ∧ w.cancelled = false :=
      ⟨_, rfl, rfl, rfl⟩
    obtain ⟨-, -, -, -, -, hreceived, -⟩ := translates_once h
    exact ⟨w, h, hseen, hreceived hseen hc⟩
  · obtain ⟨w, h, hclosed, hsent⟩ : ∃ w, (start items 1).play [.pump, .pump, .pump, .cancel,
        .pump] = some w ∧ w.pump.sink.senderOpen = false ∧ w.sent = [.ofText "Hel"] :=
      ⟨_, rfl, rfl, rfl⟩
    exact ⟨w, h, hclosed, hsent, (translates_once h).1⟩

end Scene

end Parley.Provider.Pump
