import Parley.Proofs.Session.Ending

/-! # Cancelled turns

A session says that a turn was cancelled if its token is, whatever became of the reply. A turn that
is cancelled before the relay has taken the last increment, or before a whole reply is recorded,
leaves no reply behind. One that is cancelled later, while the last increment is on its way to the
reader or while the indicator has not ended yet, has its reply in the transcript all the same.
-/

namespace Parley

def Turn.Lost (t : Turn) : Prop :=
  t.cancelled = true ∧
    match t.stage with
    | .answered result => ∀ reply, result ≠ .ok reply
    | .streaming _ relay => relay.stage.IsLost
    | _ => True

/-- No increment of the performance reports a cancellation. -/
def Performance.NeverCancels (p : Performance) : Prop :=
  ∀ plan, p.streamed = .ok plan → ∀ i ∈ plan.increments, ∀ e, i.2.error = some e →
    e.isCancelled = false

namespace Service

variable {s s' : Service} {t t' : Turn}

theorem CallMove.lost (hm : CallMove s t t' s') (h : t.Lost) : t'.Lost := by
  obtain ⟨hc, hs⟩ := h
  cases hm with
  | unheard | unread | refuse | fail | withdraw => exact ⟨hc, fun reply h => by cases h⟩
  | record _ hc' | lose _ hc' => simp [hc] at hc'
  | call | reply | stream => exact ⟨hc, trivial⟩

theorem Move.lost (hm : Move s t t' s') (h : t.Lost) : t'.Lost := by
  cases hm with
  | call hm => exact hm.lost h
  | feed hs =>
    obtain ⟨hc, hlost⟩ := h
    rw [hs] at hlost
    exact ⟨hc, hlost⟩
  | relay hs hm =>
    obtain ⟨hc, hlost⟩ := h
    rw [hs] at hlost
    rw [hc] at hm
    exact ⟨hc, hm.isLost hlost⟩

end Service

namespace Session

open Service Relay.Scene

variable {k : Nat} {v v' : Service} {t t' : Turn}

theorem Goes.lost (h : Goes k v t t' v') (hlost : t.Lost) : t'.Lost := by
  cases h with
  | stay | other => exact hlost
  | own hstep => exact (turnStep_move hstep).lost hlost
  | quiet =>
    obtain ⟨hc, hs⟩ := hlost
    exact ⟨by simp [hc], hs⟩
  | receive hs =>
    obtain ⟨hc, hlost⟩ := hlost
    rw [hs] at hlost
    exact ⟨hc, hlost⟩

/-- What a turn has added that ends as cancelled, if its generator never says so itself. -/
theorem Story.cancelled {P : Performance → Prop} {b s : Session} {text : String}
    {added : List (Role × String)} {received : List Increment} {sawEnd : Bool} {ending : Ending}
    {err : Error} (h : Story P b k text (.closing ending) t added received sawEnd s)
    (hsource : ∀ p, P p → p.NeverCancels)
    (he : s.outcome k ending = .error err) (hc : err.isCancelled = true) :
    added = [(.user, text)] ∨
      ∃ reply relay, added = [(.user, text), (.assistant, reply)] ∧ ¬ t.Lost ∧
        s.service.relay? k = some relay ∧
        (relay.stage = .ended (.completed reply true) ∨
          relay.stage = .ended (.hungUp reply true)) := by
  cases ending with
  | called result =>
    obtain ⟨-, -, hreturned⟩ := h.called
    cases result with
    | ok reply => cases he
    | error e =>
      obtain rfl : e = err := Except.error.inj he
      cases e with
      | cancelled => exact .inl hreturned
      | _ => cases hc
  | streamed shown failure =>
    obtain ⟨p, plan, feed, relay, o, taken, ds, hP, hplan, hs, ho, hadded, hfaithful, -, hshown⟩ :=
      h.streamed
    cases failure with
    | some e =>
      obtain rfl : e = err := Except.error.inj he
      obtain ⟨i, hi, hie⟩ := hshown.failed e rfl
      have hsrc : i ∈ plan.increments.map (·.2) :=
        (hfaithful.delivers.inOrder.received_prefix.trans hfaithful.flows.taken_prefix).subset hi
      obtain ⟨j, hj, rfl⟩ := List.mem_map.mp hsrc
      simp [hsource p hP plan hplan j hj e hie] at hc
    | none =>
      have hrelay := relay?_eq_some_iff.mpr ⟨t, feed, h.follows.here, hs⟩
      have hreports := hfaithful.reports
      have hnot (hne : o ≠ .cancelled) : ¬ t.Lost := by
        rintro ⟨-, hlost⟩
        rw [hs] at hlost
        have hended : relay.stage.IsLost := hlost
        rw [ho] at hended
        exact hne hended
      cases o with
      | completed reply persisted | hungUp reply persisted =>
        cases persisted with
        | false => exact .inl hadded
        | true => exact .inr ⟨reply, relay, hadded, hnot (by simp), hrelay, by simp [ho]⟩
      | failed persisted =>
        have hstage : (scene feed relay t.cancelled taken received true default).relay.stage =
            .ended (.failed persisted) := ho
        obtain ⟨-, hitems, -⟩ := hfaithful.delivers.seen rfl
        rw [hstage, Reports, hitems, List.append_nil] at hreports
        obtain ⟨i, hi, hie⟩ := hreports
        simp [hshown.isError_of_failure i hi] at hie
      | cancelled => exact .inl hadded

/-- A session that warns of a cancelled turn has kept its reply only if the stream had ended, and
then the turn was not cancelled before the relay knew of that end. -/
theorem cancelled_keeps_only_finished {service : Service} {input : List Entry}
    {s₀ b e s' : Session} {k : Nat} {ending : Ending} (hopens : Opens service input s₀)
    (hturn : WholeTurn s₀ b k ending e s')
    (hsource : ∀ p ∈ service.generator.script, p.NeverCancels)
    (hwarned : ∃ ds, s'.drawings = e.drawings ++ ds ∧ .warning "Cancelled." ∈ ds) :
    ∃ text before after, (b.service.turns[k]?).map Turn.stage = some (.asked text) ∧
      b.service.archive.find? s₀.id = some before ∧
      s'.service.archive.find? s₀.id = some after ∧
      (after.pairs = before.pairs ++ [(.user, text)] ∨
        ∃ reply relay, after.pairs = before.pairs ++ [(.user, text), (.assistant, reply)] ∧
          s'.service.relay? k = some relay ∧
          (relay.stage = .ended (.completed reply true) ∨
            relay.stage = .ended (.hungUp reply true))) ∧
      ∀ u t, b.Leads u → u.Leads e → u.service.turns[k]? = some t → t.Lost →
        after.pairs = before.pairs ++ [(.user, text)] := by
  obtain ⟨text, t₀, hleads, hid, hknown, hasked, hbegin⟩ := hturn.begin hopens
  have halong : Along (Scripted service.generator.script) (fun _ _ => True) b k text b :=
    .inl ⟨_, _, _, _, _, hbegin, trivial⟩
  obtain ⟨t, added, received, sawEnd, hstory, -⟩ :=
    hturn.last_story (halong.leads (fun _ _ => trivial) hopens hleads hturn.leads)
  obtain rfl := hturn.conclude_eq
  obtain ⟨ds, hds, hmem⟩ := hwarned
  obtain rfl : e.lastDrawings k ending = ds :=
    List.append_cancel_left ((drawings_conclude e k ending).symm.trans hds)
  obtain ⟨err, herr, hc⟩ := outcome_of_warned hmem
  have hscripted : ∀ p, Scripted service.generator.script p → p.NeverCancels := by
    rintro p (rfl | hp)
    · intro plan hplan
      cases hplan
    · exact hsource p hp
  obtain ⟨before, hbefore⟩ := Option.isSome_iff_exists.mp hknown
  obtain ⟨after, hafter, hpairs⟩ := hstory.follows.gained.pairs (hid ▸ hbefore)
  rw [hid] at hafter
  have hadded := hstory.cancelled hscripted herr hc
  refine ⟨text, before, after, hasked, hbefore, hafter, ?_, fun u t₁ hu hue ht₁ hlost => ?_⟩
  · rcases hadded with rfl | ⟨reply, relay, rfl, -, hrelay⟩
    · exact .inl hpairs
    · exact .inr ⟨reply, relay, hpairs, hrelay⟩
  · have hlost_u : Along (Scripted service.generator.script) (fun t _ => t.Lost) b k text u := by
      rcases halong.leads (fun _ _ => trivial) hopens hleads hu with
        ⟨_, t₂, _, _, _, h₂, -⟩ | hpast
      · obtain rfl := Option.some.inj (ht₁.symm.trans h₂.follows.here)
        exact .inl ⟨_, _, _, _, _, h₂, hlost⟩
      · exact .inr hpast
    obtain ⟨t₃, _, _, _, h₃, hlost₃⟩ :=
      hturn.last_story (hlost_u.leads (fun hg => hg.lost) hopens (hleads.trans hu) hue)
    obtain rfl := Option.some.inj (hstory.follows.here.symm.trans h₃.follows.here)
    rcases hadded with rfl | ⟨reply, relay, -, hnot, -⟩
    · exact hpairs
    · exact absurd hlost₃ hnot

/-- A stream that is interrupted after its first piece. -/
theorem cancelled_keeps_only_finished_midway :
    let p : Performance :=
      { whole := .silence
        streamed := .ok { capacity := 1, increments := [(0, .ofText "a"), (0, .last "b")] } }
    let service : Service := { archive := { clock := default }, generator := { script := [p] } }
    let early : List Move := [.part 0 .call, .part 0 .call, .part 0 .feed, .part 0 .relay,
      .part 0 .relay, .part 0 .relay, .loop, .loop, .signal .interrupt]
    let late : List Move := [.part 0 .relay, .part 0 .relay, .loop, .indicator]
    ∃ s₀ b u e s' before after, Session.new service {} [{ reading := .ok (.line "hi") }] = .ok s₀ ∧
      s₀.step .loop = some b ∧ early.foldlM Session.step b = some u ∧
      late.foldlM Session.step u = some e ∧ e.step .loop = some s' ∧
      s'.drawings = e.drawings ++ [.finishReply, .warning "Cancelled."] ∧
      b.service.archive.find? s₀.id = some before ∧
      s'.service.archive.find? s₀.id = some after ∧
      after.pairs = before.pairs ++ [(.user, "hi")] := by
  intro p service early late
  let opened := (Session.new service {} [{ reading := .ok (.line "hi") }]).toOption
  let begun := opened.bind (·.step .loop)
  let interrupted := begun.bind fun b => early.foldlM Session.step b
  let closing := interrupted.bind fun u => late.foldlM Session.step u
  let ended := closing.bind (·.step .loop)
  obtain ⟨s', hended⟩ : ∃ s', ended = some s' := Option.isSome_iff_exists.mp (by decide +kernel)
  obtain ⟨e, hclosing, hs'⟩ := Option.bind_eq_some_iff.mp hended
  obtain ⟨u, hinterrupted, hlate⟩ := Option.bind_eq_some_iff.mp hclosing
  obtain ⟨b, hbegun, hearly⟩ := Option.bind_eq_some_iff.mp hinterrupted
  obtain ⟨s₀, hopened, hb⟩ := Option.bind_eq_some_iff.mp hbegun
  have hnew := toOption_eq_some_iff.mp hopened
  have hfirst : begun.map Session.stage = some (.inTurn 0 .calling) := by decide +kernel
  have hasked : begun.map (fun b => (b.service.turns[0]?).map Turn.stage) =
      some (some (.asked "hi")) := by rfl
  have hcancelled : interrupted.map (fun u => (u.service.turns[0]?).map Turn.cancelled) =
      some (some true) := by decide +kernel
  have hstage : interrupted.map (fun u => (u.service.relay? 0).map Relay.stage) =
      some (some .awaiting) := by decide +kernel
  have hlast : closing.map Session.stage = some (.inTurn 0 (.closing (.streamed true none))) := by
    decide +kernel
  have hshown : closing.map drawings =
      some [.beginReply "Assistant", .replyText "a", .clearThinking] := by decide +kernel
  have hwarned : ended.map drawings = some [.beginReply "Assistant", .replyText "a",
    .clearThinking, .finishReply, .warning "Cancelled."] := by decide +kernel
  simp only [hbegun, Option.map_some, Option.some.injEq] at hfirst hasked
  simp only [hinterrupted, Option.map_some, Option.some.injEq] at hcancelled hstage
  simp only [hclosing, Option.map_some, Option.some.injEq] at hlast hshown
  simp only [hended, Option.map_some, Option.some.injEq] at hwarned
  have hdrawn : s'.drawings = e.drawings ++ [.finishReply, .warning "Cancelled."] := by
    rw [hwarned, hshown]
    rfl
  obtain ⟨t₀, ht₀, hasked⟩ := Option.map_eq_some_iff.mp hasked
  obtain ⟨t, ht, hcancelled⟩ := Option.map_eq_some_iff.mp hcancelled
  obtain ⟨relay, hrelay, hstage⟩ := Option.map_eq_some_iff.mp hstage
  have hopens : Opens service [{ reading := .ok (.line "hi") }] s₀ :=
    ⟨⟨{}, false, hnew⟩, by simp [service], by simp⟩
  have hawaiting : s₀.stage = .awaiting := by
    obtain rfl := Except.ok.inj hnew
    rfl
  have hbu : b.Leads u := ⟨early, hearly⟩
  have hue : u.Leads e := ⟨late, hlate⟩
  have hturn : WholeTurn s₀ b 0 (.streamed true none) e s' :=
    ⟨⟨s₀, .refl s₀, hawaiting, hb⟩, hfirst, hbu.trans hue, hlast, hs'⟩
  have hsource : ∀ q ∈ service.generator.script, q.NeverCancels := by
    intro q hq plan hplan
    obtain rfl : q = p := by simpa [service] using hq
    obtain rfl := Except.ok.inj hplan
    simp [Increment.ofText, Increment.last]
  obtain ⟨text, before, after, htext, hbefore, hafter, -, hlost⟩ :=
    cancelled_keeps_only_finished hopens hturn hsource ⟨_, hdrawn, by simp⟩
  obtain rfl : "hi" = text := by simpa [ht₀, hasked] using htext
  obtain ⟨t', feed, ht', hs⟩ := relay?_eq_some_iff.mp hrelay
  obtain rfl := Option.some.inj (ht.symm.trans ht')
  have ht_lost : t.Lost := by
    rw [Turn.Lost, hs]
    refine ⟨hcancelled, ?_⟩
    change relay.stage.IsLost
    rw [hstage]
    trivial
  exact ⟨s₀, b, u, e, s', before, after, hnew, hb, hearly, hlate, hs', hdrawn, hbefore, hafter,
    hlost u t hbu hue ht ht_lost⟩

/-- A turn that is reported as cancelled and whose reply is kept: the interrupt comes when the relay
has recorded the reply and waits for room to pass the last increment on. -/
theorem cancelled_keeps_finished :
    let p : Performance :=
      { whole := .silence
        streamed := .ok { capacity := 1, increments := [(0, .ofText "a"), (0, .last "b")] } }
    let service : Service :=
      { archive := { clock := default }, options := { streamCapacity := 1 }
        generator := { script := [p] } }
    let moves : List Move := [.loop, .part 0 .call, .part 0 .call, .part 0 .feed, .part 0 .relay,
      .part 0 .relay, .part 0 .relay, .part 0 .feed, .part 0 .relay, .part 0 .relay,
      .signal .interrupt, .part 0 .relay, .part 0 .relay, .loop, .loop, .loop, .indicator, .loop]
    ∃ s₀ s, Session.new service {} [{ reading := .ok (.line "hi") }] = .ok s₀ ∧
      moves.foldlM Session.step s₀ = some s ∧
      s.drawings = [.beginReply "Assistant", .replyText "a", .clearThinking, .finishReply,
        .warning "Cancelled."] ∧
      (s.service.archive.find? s₀.id).map Transcript.pairs =
        some [(.user, "hi"), (.assistant, "ab")] :=
  ⟨_, _, rfl, rfl, rfl, rfl⟩

end Session

end Parley
