import Mathlib.Data.List.Forall2
import Parley.Proofs.Session.Shown
import Parley.Proofs.Turn.Expects

/-! # Conversations

A session whose turns nobody cancels says what its user says and what the generator replies, in this
order, whether the replies are streamed in pieces or asked for as a whole. Neither its transcript nor
what a plain display shows of it tells one from the other.
-/

namespace Parley

namespace Session

open Service Display

variable {k : Nat} {v v' : Service} {t t' : Turn} {streaming : Bool} {reply : String}
  {rest : List Performance}

/-- A turn that is to get a reply, when no other turn waits for one. -/
structure Awaits (streaming : Bool) (reply : String) (rest : List Performance) (k : Nat) (t : Turn)
    (v : Service) : Prop where
  delivery_eq : t.delivery = if streaming then .streaming else .blocking
  others : ∀ (i : Nat) (u : Turn), v.turns[i]? = some u → i ≠ k → u.Heard
  expects : Turn.Expects streaming reply rest v.generator.script t.cancelled t.stage

theorem heard_of_core {u u' : Turn} (h : u.Heard) (hc : u'.core = u.core) : u'.Heard := by
  obtain ⟨-, hs⟩ := Prod.mk.inj hc
  rw [Turn.Heard, hs]
  exact h

theorem Goes.awaits (hg : Goes k v t t' v') (h : Awaits streaming reply rest k t v) :
    Awaits streaming reply rest k t' v' := by
  obtain ⟨hd, hothers, hexpects⟩ := h
  cases hg with
  | stay => exact ⟨hd, hothers, hexpects⟩
  | own hstep =>
    have hm := turnStep_move hstep
    refine ⟨hm.delivery_eq.trans hd, fun i u hu hi => ?_, hm.expects hd hexpects⟩
    rcases getElem?_set_cases hu with ⟨-, rfl⟩ | ⟨hu, -⟩
    · exact absurd rfl hi
    · exact hothers i u hu hi
  | @other i p u hi hu =>
    obtain ⟨w, _, _, hw, -, -⟩ := step_eq_some_iff.mp hu
    obtain ⟨hgenerator, hheard⟩ := heard_of_step hu hw (hothers i w hw hi)
    refine ⟨hd, fun j x hx hj => ?_, hgenerator ▸ hexpects⟩
    rcases hheard j x hx with hx | hx
    · exact hothers j x hx hj
    · exact hx
  | @quiet c u hgenerator hcore =>
    refine ⟨hd, fun i x hx hi => ?_, ?_⟩
    · obtain ⟨x', hx', hc⟩ := getElem?_of_core hcore hx
      exact heard_of_core (hothers i x' hx' hi) hc
    · rw [hgenerator]
      exact hexpects.cancel fun hc => by simp [hc]
  | receive hs =>
    rw [hs] at hexpects
    refine ⟨hd, fun i x hx hi => ?_, hexpects⟩
    simp only [Service.updateSink, update, List.getElem?_modify, if_neg (Ne.symm hi)] at hx
    exact hothers i x (by simpa using hx) hi

/-- What has no effect on what a session says. -/
structure Idle (id : SessionId) (s s' : Session) : Prop extends Aside id s s' where
  settings_eq : s'.settings = s.settings
  streaming_eq : s'.streaming = s.streaming
  generator_eq : s'.service.generator = s.service.generator
  lasting_eq : s'.lasting = s.lasting

variable {id : SessionId} {s₀ b s s' u : Session} {x : String × String}
  {done todo todo' exchanges : List (String × String)} {lines : List String}
  {said : List (String × Bool)} {input : List Entry} {w : Service} {i : Nat} {p : Turn.Part}

theorem Quiet.idle (h : Quiet s s') (id : SessionId) : Idle id s s' where
  id_eq := h.id_eq
  input_eq := h.input_eq
  stage_eq := h.stage_eq
  find?_eq := by rw [h.archive_eq]
  turns_eq := h.core_eq
  settings_eq := h.settings_eq
  streaming_eq := h.streaming_eq
  generator_eq := h.generator_eq
  lasting_eq := h.lasting_eq

theorem idle_interlude {x : Interlude} (hx : x ≠ .deleteSession id) (s : Session) :
    Idle id s (s.interlude x) := by
  have ha := aside_interlude hx s
  cases x with
  | deleteSession => exact ⟨ha, rfl, rfl, rfl, rfl⟩
  | interrupt =>
    have hq := quiet_interrupt s
    refine ⟨ha, hq.settings_eq, hq.streaming_eq, hq.generator_eq, ?_⟩
    simp only [lasting, drawings, interlude, List.filterMap_append]
    simpa [lasting, drawings] using hq.lasting_eq
  | cancel => exact ⟨ha, rfl, rfl, rfl, rfl⟩

theorem idle_interludes {xs : List Interlude} (hx : .deleteSession id ∉ xs) (s : Session) :
    Idle id s (xs.foldl interlude s) := by
  induction xs generalizing s with
  | nil => exact ⟨.refl id s, rfl, rfl, rfl, rfl⟩
  | cons x xs ih =>
    rw [List.mem_cons, not_or] at hx
    have h := idle_interlude (Ne.symm hx.1) s
    have h' := ih hx.2 (s.interlude x)
    exact ⟨h.toAside.trans h'.toAside, h'.settings_eq.trans h.settings_eq,
      h'.streaming_eq.trans h.streaming_eq, h'.generator_eq.trans h.generator_eq,
      h'.lasting_eq.trans h.lasting_eq⟩

def exchangePairs (x : String × String) : List (Role × String) :=
  [(.user, x.1), (.assistant, x.2)]

/-- What a session has recorded and shown of a conversation, with what is still to be said. -/
structure Told (s₀ : Session) (done todo : List (String × String)) (s : Session) : Prop where
  id_eq : s.id = s₀.id
  settings_eq : s.settings = s₀.settings
  streaming_eq : s.streaming = s₀.streaming
  input_eq : s.input.map (fun e => turnLine? e.reading) = todo.map fun x => some x.1
  recorded : ∃ tr, s.service.archive.find? s₀.id = some tr ∧ tr.pairs = done.flatMap exchangePairs
  clean : plain.after s.lasting = plain
  written : plain.output s.lasting =
    String.join (done.map fun x => replyLine s₀.settings.assistantName x.2)

/-- A session between two turns of a conversation. -/
structure Rested (s₀ : Session) (done todo : List (String × String)) (s : Session) : Prop
    extends Told s₀ done todo s where
  gives : List.Forall₂ (fun p x => p.Gives s₀.streaming x.2) s.service.generator.script todo
  heard : ∀ (i : Nat) (t : Turn), s.service.turns[i]? = some t → t.Heard

theorem Told.idle (h : Told s₀ done todo s) (hi : Idle s₀.id s s') : Told s₀ done todo s' where
  id_eq := hi.id_eq.trans h.id_eq
  settings_eq := hi.settings_eq.trans h.settings_eq
  streaming_eq := hi.streaming_eq.trans h.streaming_eq
  input_eq := hi.input_eq ▸ h.input_eq
  recorded := by
    rw [hi.find?_eq]
    exact h.recorded
  clean := hi.lasting_eq ▸ h.clean
  written := hi.lasting_eq ▸ h.written

theorem Rested.idle (h : Rested s₀ done todo s) (hi : Idle s₀.id s s') :
    Rested s₀ done todo s' where
  toTold := h.toTold.idle hi
  gives := hi.generator_eq ▸ h.gives
  heard i t ht := by
    obtain ⟨t', ht', hc⟩ := getElem?_of_core hi.turns_eq ht
    exact heard_of_core (h.heard i t' ht') hc

theorem Rested.part (h : Rested s₀ done todo s) (hrest : AtRest s₀.id lines said s.service)
    (hw : s.service.step i p = some w) : Rested s₀ done todo { s with service := w } := by
  obtain ⟨t, _, _, ht, -, -⟩ := step_eq_some_iff.mp hw
  obtain ⟨-, hfind⟩ := harmless_step hw ht (hrest.harmless i t ht)
  obtain ⟨hgenerator, hheard⟩ := heard_of_step hw ht (h.heard i t ht)
  refine ⟨⟨h.id_eq, h.settings_eq, h.streaming_eq, h.input_eq, ?_, h.clean, h.written⟩, ?_, ?_⟩
  · dsimp only
    rw [hfind]
    exact h.recorded
  · dsimp only
    rw [hgenerator]
    exact h.gives
  · intro j u hu
    rcases hheard j u hu with hu | hu
    · exact h.heard j u hu
    · exact hu

theorem Told.prompted (h : Told s₀ done todo s) {rest : List Entry}
    (hrest : rest.map (fun e => turnLine? e.reading) = todo'.map fun x => some x.1) :
    Told s₀ done todo'
      { s with input := rest, events := s.events ++ [Event.prompt s.prompt] } := by
  have hlasting : ({ s with input := rest, events := s.events ++ [Event.prompt s.prompt] } :
      Session).lasting = s.lasting := by simp [lasting, drawings]
  exact ⟨h.id_eq, h.settings_eq, h.streaming_eq, hrest, h.recorded, hlasting ▸ h.clean,
    hlasting ▸ h.written⟩

/-- A turn of a conversation is under way, and its reply is still to be told. -/
structure Asks (s₀ : Session) (done : List (String × String)) (x : String × String)
    (todo : List (String × String)) (b : Session) (k : Nat) (phase : Phase) (t : Turn)
    (s : Session) : Prop where
  told : Told s₀ done todo b
  story : ∃ added received sawEnd,
    Story (fun p => p.Gives s₀.streaming x.2) b k x.1 phase t added received sawEnd s
  awaits : ∃ rest, List.Forall₂ (fun p x => p.Gives s₀.streaming x.2) rest todo ∧
    Awaits s₀.streaming x.2 rest k t s.service

theorem Told.beginTurn (h : Told s₀ done todo s)
    (hgives : List.Forall₂ (fun p x => p.Gives s₀.streaming x.2) s.service.generator.script
      (x :: todo))
    (hheard : ∀ (i : Nat) (t : Turn), s.service.turns[i]? = some t → t.Heard)
    (hrest : AtRest s₀.id lines said s.service) :
    ∃ t, Asks s₀ done x todo (s.beginTurn x.1) s.service.turns.length .calling t
      (s.beginTurn x.1) := by
  obtain ⟨t, hstory, hstage, hdelivery⟩ :=
    story_beginTurn (P := fun p => p.Gives s₀.streaming x.2) hrest h.id_eq x.1
  rw [h.streaming_eq] at hdelivery
  refine ⟨t, ⟨h.id_eq, h.settings_eq, h.streaming_eq, h.input_eq, h.recorded, h.clean, h.written⟩,
    ⟨[], [], false, hstory⟩, ?_⟩
  obtain ⟨p, rest, hp, hrest', hscript⟩ := List.forall₂_cons_right_iff.mp hgives
  refine ⟨rest, hrest', hdelivery, fun i u hu hi => ?_, ?_⟩
  · have hturns : ∃ t', (s.beginTurn x.1).service.turns = s.service.turns ++ [t'] := ⟨_, rfl⟩
    obtain ⟨t', hturns⟩ := hturns
    rcases getElem?_concat_cases (hturns ▸ hu) with hu | ⟨rfl, -⟩
    · exact hheard i u hu
    · exact absurd rfl hi
  · rw [hstage]
    exact ⟨p, hscript, hp⟩

theorem Rested.readLine (h : Rested s₀ done todo s)
    (hord : Orderly s₀.id input { session := s, said }) (hs : s.stage = .awaiting) :
    (todo = [] ∧ (∃ result, s.readLine.stage = .over result) ∧ Rested s₀ done [] s.readLine) ∨
      ∃ x todo' k t, todo = x :: todo' ∧ s.readLine.stage = .inTurn k .calling ∧
        Asks s₀ done x todo' s.readLine k .calling t s.readLine := by
  have hinput := h.input_eq
  cases hi : s.input with
  | nil =>
    rw [hi] at hinput
    obtain rfl : todo = [] := by simpa using hinput.symm
    have hread : s.readLine = { s with
        events := s.events ++ [Event.prompt s.prompt]
        stage := .over (.error (Reading.asInputError Reading.endOfInput)) } := by
      simp [Session.readLine, hi, take]
    have htold : Told s₀ done [] { s with
        input := [], events := s.events ++ [Event.prompt s.prompt] } := h.toTold.prompted rfl
    rw [hread]
    exact .inl ⟨rfl, ⟨_, rfl⟩, ⟨⟨h.id_eq, h.settings_eq, h.streaming_eq, h.input_eq, h.recorded,
      htold.clean, htold.written⟩, h.gives, h.heard⟩⟩
  | cons e rest =>
    rw [hi] at hinput
    obtain ⟨x, todo', rfl⟩ : ∃ x todo', todo = x :: todo' := by
      cases todo with
      | nil => cases hinput
      | cons x todo' => exact ⟨x, todo', rfl⟩
    obtain ⟨hline, hlines⟩ := List.cons.inj hinput
    have hread : s.readLine = (e.interludes.foldl interlude
        { s with input := rest, events := s.events ++ [Event.prompt s.prompt] }).beginTurn x.1 := by
      rw [Session.readLine, hi]
      exact take_of_turnLine _ hline
    have hfirst : s.readLine.stage = .inTurn (e.interludes.foldl interlude
        { s with input := rest, events := s.events ++ [Event.prompt s.prompt] }).service.turns.length
        .calling := by
      rw [hread]
      rfl
    obtain ⟨e', rest', -, s₁, lines, hi', -, rfl, hrest, -⟩ := readLine_inTurn hord hs hfirst
    obtain ⟨rfl, rfl⟩ := List.cons.inj (hi.symm.trans hi')
    have hidle := idle_interludes (hord.spared e (hi ▸ List.mem_cons_self))
      { s with input := rest, events := s.events ++ [Event.prompt s.prompt] }
    have htold := (h.toTold.prompted hlines).idle hidle
    obtain ⟨t, hasks⟩ := htold.beginTurn (x := x) (hidle.generator_eq ▸ h.gives)
      (fun i t ht => by
        obtain ⟨t', ht', hc⟩ := getElem?_of_core hidle.turns_eq ht
        exact heard_of_core (h.heard i t' ht') hc) hrest
    rw [hread]
    exact .inr ⟨x, todo', _, t, rfl, rfl, hasks⟩

variable {phase : Phase} {ending : Ending}

theorem Asks.stage_eq (h : Asks s₀ done x todo b k phase t s) : s.stage = .inTurn k phase := by
  obtain ⟨_, _, _, hstory⟩ := h.story
  exact hstory.stage_eq

/-- A turn that nobody cancels ends well, and the performance that it has used up is the next. -/
theorem Asks.ends_well (h : Asks s₀ done x todo b k (.closing ending) t s)
    (hstore : b.service.archive.Unfailing) (hc : t.cancelled = false) :
    s.outcome k ending = .ok () ∧ t.Heard ∧
      List.Forall₂ (fun p x => p.Gives s₀.streaming x.2) s.service.generator.script todo ∧
      (∀ reply, ending = .called (.ok reply) → reply = x.2) ∧
      ∀ shown failure, ending = .streamed shown failure → s₀.streaming = true := by
  obtain ⟨added, received, sawEnd, hstory⟩ := h.story
  obtain ⟨rest, hgives, -, -, hexpects⟩ := h.awaits
  have hknown : (b.service.archive.find? b.id).isSome := by
    obtain ⟨tr, htr, -⟩ := h.told.recorded
    rw [h.told.id_eq, htr]
    rfl
  have hunrefused := hstory.follows.unrefused hstore hknown
  cases ending with
  | called result =>
    obtain ⟨hs, -, -⟩ := hstory.called
    rw [hs] at hexpects hunrefused
    rcases hexpects with ⟨e, rfl, he⟩ | ⟨rfl, hresult⟩
    · have hnot : e.isHistoryWrite = false := hunrefused
      simp [hnot] at he
    · obtain rfl := hresult hc
      refine ⟨rfl, fun text => by simp [hs], hgives, ?_, fun shown failure he => by cases he⟩
      intro reply he
      exact (Except.ok.inj (Ending.called.inj he)).symm
  | streamed shown failure =>
    obtain ⟨p, plan, feed, relay, o, taken, ds, hP, hplan, hs, ho, -, hfaithful, -, hshown⟩ :=
      hstory.streamed
    rw [hs] at hexpects
    obtain ⟨rfl, hstreaming⟩ := hexpects
    refine ⟨?_, fun text => by simp [hs], hgives, (fun reply he => by cases he),
      fun _ _ _ => hstreaming⟩
    obtain ⟨-, hcalm, -⟩ := hP.spells hstreaming hplan
    obtain ⟨-, -, hall⟩ := hfaithful.delivers.seen rfl
    have htaken : taken = _ := hfaithful.taken_eq ho hc
    have hreceived : received = taken := hall hc
    rw [← htaken, ← hreceived] at hcalm
    obtain rfl := hshown.calm_iff.mpr hcalm
    obtain ⟨session, delivery, cancelled, stage⟩ := t
    obtain rfl : cancelled = false := hc
    simp [outcome, hstory.follows.here]

theorem Asks.conclude (h : Asks s₀ done x todo b k (.closing ending) t s)
    (hstore : b.service.archive.Unfailing) (hc : t.cancelled = false) (hx : x.2 ≠ "") :
    Rested s₀ (done ++ [x]) todo (s.conclude k ending) := by
  obtain ⟨hok, hheard, hgives, hcalled, hstreamed⟩ := h.ends_well hstore hc
  obtain ⟨added, received, sawEnd, hstory⟩ := h.story
  obtain ⟨-, -, -, hothers, -⟩ := h.awaits
  obtain ⟨tr, htr, hpairs⟩ := h.told.recorded
  have hid := h.told.id_eq
  have hknown : (b.service.archive.find? b.id).isSome := by
    rw [hid, htr]
    rfl
  obtain ⟨pieces, rfl, hlasting, hends⟩ := hstory.successful hstore hknown hok
  obtain ⟨tr', htr', hpairs'⟩ := hstory.follows.gained.pairs (hid ▸ htr)
  have hjoin : String.join pieces = x.2 := by
    rcases hends with he | ⟨shown, failure, p, plan, he, hP, hplan, hjoin⟩
    · exact hcalled _ he
    · obtain ⟨-, -, hspells⟩ := hP.spells (hstreamed shown failure he) hplan
      exact hjoin.trans hspells
  obtain ⟨hafter, houtput⟩ := output_ofReply s₀.settings.assistantName (hjoin.symm ▸ hx)
  rw [h.told.settings_eq] at hlasting
  refine ⟨⟨hstory.id_eq.trans hid, hstory.settings_eq.trans h.told.settings_eq,
    hstory.streaming_eq.trans h.told.streaming_eq, ?_, ⟨tr', hid ▸ htr', ?_⟩, ?_, ?_⟩, hgives, ?_⟩
  · have hinput : (s.conclude k ending).input = b.input := hstory.input_eq
    rw [hinput]
    exact h.told.input_eq
  · rw [hpairs', hpairs, hjoin, List.flatMap_append]
    simp [exchangePairs]
  · rw [hlasting, after_append, h.told.clean, hafter]
  · rw [hlasting, output_append, h.told.clean, h.told.written, houtput, hjoin]
    simp [String.join_append]
  · intro i u hu
    by_cases hi : i = k
    · subst hi
      obtain rfl := Option.some.inj (hstory.follows.here.symm.trans hu)
      exact hheard
    · exact hothers i u hu hi

end Session

end Parley
