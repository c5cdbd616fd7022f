import Mathlib.Data.List.Induction
import Parley.Proofs.Turn.Request
import Parley.Proofs.Turn.Unheard

/-! # Turns side by side

Any number of turns, of the same session or of several, take their steps in any order, while turns
are begun and cancelled, streams are read or dropped, sessions are opened and time passes. Minutes
are kept of the requests and of which turn recorded what. Every transcript is what the turns of its
session recorded, and no turn touches another session.
-/

namespace Parley

/-- The messages of a session; none if there is no such session. -/
def Archive.said (a : Archive) (id : SessionId) : List Message :=
  ((a.find? id).map (·.messages)).getD []

theorem Archive.said_of_find?_eq {a b : Archive} {id : SessionId} {ms : List Message}
    (hb : b.find? id = (a.find? id).map (·.extend ms)) (hms : ms ≠ [] → (a.find? id).isSome) :
    b.said id = a.said id ++ ms := by
  rw [said, hb, said]
  cases ha : a.find? id with
  | some t => rfl
  | none =>
    have hnil : ms = [] := by
      by_contra hne
      simpa [ha] using hms hne
    simp [hnil]

theorem Archive.find?_create_cases (a : Archive) (id : SessionId) :
    a.create.2.find? id = a.find? id ∨
      a.find? id = none ∧ ∃ t, t.messages = [] ∧ a.create.2.find? id = some t := by
  rw [create]
  split
  · exact .inl rfl
  · next t store hs =>
    by_cases hid : id = t.id
    · obtain ⟨hn, ht, hfind⟩ := Store.find?_create hs
      exact .inr ⟨hid ▸ hn, t, ht, hid ▸ hfind⟩
    · exact .inl (Store.find?_create_of_ne hs hid)

theorem Archive.said_create (a : Archive) (id : SessionId) : a.create.2.said id = a.said id := by
  rcases a.find?_create_cases id with h | ⟨hn, t, ht, hfind⟩
  · rw [said, h, said]
  · rw [said, hfind, said, hn, Option.map_some, ht]
    rfl

namespace Service

/-- What can happen to a service: a request comes, which may have been cancelled already, something
happens to a turn, the reader of a stream takes the next increment or leaves, or a session is
opened. -/
inductive Event where
  | ask (r : Request) (cancelled : Bool)
  | act (a : Act)
  | receive (k : Nat)
  | leave (k : Nat)
  | openSession

/-- A service with the requests that came to it, each of which is a turn, and the messages that were
recorded, each with the number of the turn that recorded it. -/
structure Minutes where
  service : Service
  asked : List Request := []
  record : List (Nat × Message) := []

namespace Minutes

/-- What a turn finds at the end of the transcript of its session after it has taken a step. -/
def news (g : Minutes) (s : Service) : Act → List (Nat × Message)
  | .part k _ =>
    match g.asked[k]? with
    | some r =>
      ((s.archive.said r.session).drop (g.service.archive.said r.session).length).map (k, ·)
    | none => []
  | .cancel _ | .wait _ => []

/-- One thing happens. What is not possible at the moment has no effect. -/
def next (g : Minutes) : Event → Minutes
  | .ask r cancelled =>
    { g with
      service := g.service.ask r.session r.delivery r.text cancelled
      asked := g.asked ++ [r] }
  | .act a =>
    match g.service.act a with
    | some s => { g with service := s, record := g.record ++ g.news s a }
    | none => g
  | .receive k =>
    { g with
      service := g.service.updateSink k fun c =>
        match c.receive with
        | .item _ c => c
        | _ => c }
  | .leave k => { g with service := g.service.updateSink k (·.closeReceiver) }
  | .openSession =>
    { g with service := { g.service with archive := g.service.archive.create.2 } }

def ofTurn (g : Minutes) (k : Nat) : List Message :=
  (g.record.filter (·.1 = k)).map (·.2)

/-- What the turns of a session have recorded, in the order in which they did. -/
def ofSession (g : Minutes) (id : SessionId) : List Message :=
  (g.record.filter fun x => (g.asked[x.1]?).any (·.session = id)).map (·.2)

def run (archive : Archive) (options : Options) (generator : Generator) (es : List Event) :
    Minutes :=
  es.foldl next { service := { archive, options, generator } }

end Minutes

/-- A turn answers a request, and these are the messages that it has recorded. -/
structure Serves (r : Request) (context : ContextPolicy) (ms : List Message) (t : Turn) : Prop where
  session_eq : t.session = r.session
  delivery_eq : t.delivery = r.delivery
  relay_eq : ∀ feed relay, t.stage = .streaming feed relay → relay.session = r.session
  added : Turn.Added r.text context (ms.map fun m => (m.role, m.text)) t.stage

variable {s s' u : Service} {t t' : Turn} {r : Request} {context : ContextPolicy}
  {ms : List Message} {id : SessionId} {k : Nat} {part : Turn.Part}

/-- What a turn records is what the user said and after it at most one reply. -/
theorem added_reply {text : String} {added : List (Role × String)} {stage : Turn.Stage}
    (h : Turn.Added text context added stage) :
    ∃ reply, added <+: [(.user, text), (.assistant, reply)] := by
  have huser : ∃ reply, [(Role.user, text)] <+: [(.user, text), (.assistant, reply)] :=
    ⟨"", List.prefix_append _ _⟩
  cases stage with
  | asked said =>
    obtain ⟨-, rfl⟩ := h
    exact ⟨"", List.nil_prefix⟩
  | generating p due =>
    obtain rfl := h
    exact huser
  | replied answer =>
    obtain rfl := h
    exact huser
  | answered result =>
    rw [Turn.Added, Turn.Returned.eq_def] at h
    split at h
    · next reply => exact ⟨reply, h ▸ List.prefix_rfl⟩
    · rcases h with ⟨-, rfl⟩ | ⟨-, -, rfl⟩
      · exact ⟨"", List.nil_prefix⟩
      · exact huser
    · exact h ▸ huser
  | streaming feed relay =>
    obtain rfl := h
    rw [Relay.kept]
    cases relay.reply? with
    | none => exact huser
    | some reply => exact ⟨reply, List.prefix_rfl⟩

theorem Serves.harmless (h : Serves r context ms t) (hid : id ≠ r.session) : t.Harmless id := by
  have hsession : t.session ≠ id := h.session_eq ▸ hid.symm
  rw [Turn.Harmless]
  split
  · trivial
  · next hs => exact .inl (h.relay_eq _ _ hs ▸ hid.symm)
  · exact hsession

theorem Serves.move (h : Serves r s.options.context ms t) (hm : Move s t t' s') :
    ∃ more, Serves r s.options.context (ms ++ more) t' ∧
      (∀ id, s'.archive.find? id =
        if id = r.session then (s.archive.find? id).map (·.extend more) else s.archive.find? id) ∧
      s'.archive.said r.session = s.archive.said r.session ++ more := by
  have hrelay : ∀ feed relay, t.stage = .streaming feed relay → relay.session = t.session :=
    fun feed relay hs => (h.relay_eq feed relay hs).trans h.session_eq.symm
  obtain ⟨-, ⟨hknown, more, rfl, hhere⟩, hadded⟩ := hm.adds hrelay h.added
  rw [h.session_eq] at hknown hhere
  refine ⟨more, ⟨hm.session_eq.trans h.session_eq, hm.delivery_eq.trans h.delivery_eq,
    hm.relay_eq h.session_eq h.relay_eq, by rwa [List.map_append]⟩, fun id => ?_,
    Archive.said_of_find?_eq hhere fun hne => hknown (by simpa using hne)⟩
  split
  · next hid => rw [hid, hhere]
  · next hid => exact (hm.harmless (h.harmless hid)).2

/-- A turn calls the generator once at most, in the step in which it records what the user said, and
shows it the transcript at this moment. -/
theorem Move.call_shown (hm : Move s t t' s') :
    s'.generator.calls = s.generator.calls ∨
      ∃ m, t.stage = .asked m.text ∧ m.role = .user ∧
        s'.archive.said t.session = s.archive.said t.session ++ [m] ∧
        s'.generator.calls = s.generator.calls ++
          [{ delivery := t.delivery
             messages := s.options.context.shown (s.archive.said t.session) m }] := by
  cases hm with
  | call hm =>
    cases hm with
    | @call text m a b messages p g hs ha hb hg =>
      obtain ⟨⟨hrole, rfl⟩, hknown, hfind⟩ := Archive.append_ok ha
      have hsaid : b.said t.session = s.archive.said t.session ++ [m] := by
        refine Archive.said_of_find?_eq ?_ fun _ => hknown
        rw [hb.find?_eq, hfind, if_pos rfl]
      have hshown : messages = s.options.context.shown (s.archive.said t.session) m := by
        rw [Shows] at hb
        split at hb
        · next hc => rw [hc, hb.1, ContextPolicy.shown]
        · next hc =>
          obtain ⟨tr, htr, rfl⟩ := hb
          obtain ⟨t₀, ht₀, hmessages⟩ := Request.get_after_append
            (r := { session := t.session, delivery := t.delivery, text := m.text }) ha
            (congrArg Prod.fst htr)
          rw [hc, hmessages, ContextPolicy.shown, Archive.said, ht₀]
          rfl
      have hcalls := Generator.calls_call s.generator t.delivery messages
      rw [hg] at hcalls
      exact .inr ⟨m, hs, hrole, hsaid, hshown ▸ hcalls⟩
    | _ => exact .inl rfl
  | feed | relay => exact .inl rfl

namespace Minutes

variable {g : Minutes} {a : Archive} {v : Service}

theorem ofTurn_append (j : Nat) :
    ({ g with service := v, record := g.record ++ ms.map (k, ·) } : Minutes).ofTurn j =
      g.ofTurn j ++ if k = j then ms else [] := by
  rw [ofTurn, List.filter_append, List.map_append, ofTurn, List.filter_map]
  split <;> simp [Function.comp_def, *]

theorem ofSession_append (hr : g.asked[k]? = some r) (id : SessionId) :
    ({ g with service := v, record := g.record ++ ms.map (k, ·) } : Minutes).ofSession id =
      g.ofSession id ++ if r.session = id then ms else [] := by
  rw [ofSession, List.filter_append, List.map_append, ofSession, List.filter_map]
  split <;> simp [Function.comp_def, *]

/-- The minutes of a service agree with its turns and its transcripts. -/
structure Agree (a : Archive) (context : ContextPolicy) (g : Minutes) : Prop where
  context_eq : g.service.options.context = context
  length_eq : g.asked.length = g.service.turns.length
  numbered : ∀ x ∈ g.record, x.1 < g.asked.length
  serves : ∀ k r t, g.asked[k]? = some r → g.service.turns[k]? = some t →
    Serves r context (g.ofTurn k) t
  said_eq : ∀ id, g.service.archive.said id = a.said id ++ g.ofSession id

namespace Agree

variable (h : Agree a context g)
include h

theorem exists_request (ht : g.service.turns[k]? = some t) : ∃ r, g.asked[k]? = some r := by
  obtain ⟨hk, -⟩ := List.getElem?_eq_some_iff.mp ht
  exact ⟨_, List.getElem?_eq_getElem (h.length_eq ▸ hk)⟩

theorem ofTurn_of_le (hk : g.asked.length ≤ k) : g.ofTurn k = [] := by
  rw [ofTurn, List.map_eq_nil_iff, List.filter_eq_nil_iff]
  intro x hx
  have hlt := h.numbered x hx
  simp only [decide_eq_true_eq]
  omega

theorem ask (r : Request) (cancelled : Bool) : Agree a context (g.next (.ask r cancelled)) := by
  refine ⟨h.context_eq, ?_, fun x hx => ?_, fun k r' t hr ht => ?_, fun id => ?_⟩
  · simp [next, Service.ask, h.length_eq]
  · have hlt := h.numbered x hx
    simp only [next, List.length_append]
    omega
  · simp only [next, Service.ask, List.getElem?_append, ← h.length_eq] at hr ht
    split at hr
    · next hk =>
      rw [if_pos hk] at ht
      exact h.serves k r' t hr ht
    · next hk =>
      rw [if_neg hk] at ht
      obtain ⟨-, rfl⟩ := List.getElem?_eq_some_iff.mp hr
      obtain ⟨-, rfl⟩ := List.getElem?_eq_some_iff.mp ht
      have hnil : (g.next (.ask r cancelled)).ofTurn k = [] :=
        h.ofTurn_of_le (Nat.le_of_not_lt hk)
      rw [hnil]
      simp only [List.getElem_singleton]
      exact ⟨rfl, rfl, fun _ _ hs => (nomatch hs), rfl, rfl⟩
  · -- the new request has no number that is in the record
    have hsame : (g.next (.ask r cancelled)).ofSession id = g.ofSession id := by
      refine congrArg (List.map Prod.snd) (List.filter_congr fun x hx => ?_)
      simp only [next, List.getElem?_append_left (h.numbered x hx)]
    rw [hsame]
    exact h.said_eq id

theorem update {f : Turn → Turn} (hf : ∀ r ms t, Serves r context ms t → Serves r context ms (f t))
    (k : Nat) : Agree a context { g with service := g.service.update k f } := by
  refine ⟨h.context_eq, ?_, h.numbered, fun i r t hr ht => ?_, h.said_eq⟩
  · simp [Service.update, h.length_eq]
  · simp only [Service.update, List.getElem?_modify] at ht
    obtain ⟨t₀, ht₀, rfl⟩ := Option.map_eq_some_iff.mp ht
    split
    · exact hf r _ t₀ (h.serves i r t₀ hr ht₀)
    · exact h.serves i r t₀ hr ht₀

theorem updateSink (k : Nat) (f : Channel Increment → Channel Increment) :
    Agree a context { g with service := g.service.updateSink k f } := by
  refine h.update (fun r ms t ht => ?_) k
  split
  · next feed relay hs =>
    refine ⟨ht.session_eq, ht.delivery_eq, fun feed' relay' hs' => ?_, ?_⟩
    · obtain ⟨rfl, rfl⟩ := Turn.Stage.streaming.inj hs'
      exact ht.relay_eq feed relay hs
    · have hadded := ht.added
      rw [hs] at hadded
      exact hadded
  · exact ht

theorem part_cases (hu : g.service.step k part = some u) :
    ∃ r t t' more, g.asked[k]? = some r ∧ g.service.turns[k]? = some t ∧
      g.service.turnStep t part = some (t', { u with turns := g.service.turns }) ∧
      u.turns = g.service.turns.set k t' ∧
      Serves r context (g.ofTurn k ++ more) t' ∧
      g.news u (.part k part) = more.map (k, ·) ∧
      (∀ id, u.archive.find? id = if id = r.session then
        (g.service.archive.find? id).map (·.extend more) else g.service.archive.find? id) ∧
      u.archive.said r.session = g.service.archive.said r.session ++ more := by
  obtain ⟨t, t', s', ht, hstep, rfl⟩ := step_eq_some_iff.mp hu
  obtain ⟨r, hr⟩ := h.exists_request ht
  have hm := turnStep_move hstep
  have hserves := h.serves k r t hr ht
  rw [← h.context_eq] at hserves
  obtain ⟨more, hserves', hfind, hsaid⟩ := hserves.move hm
  rw [h.context_eq] at hserves'
  refine ⟨r, t, t', more, hr, ht, ?_, rfl, hserves', ?_, hfind, hsaid⟩
  · rw [hstep, ← hm.turns_eq]
  · have hdrop : (s'.archive.said r.session).drop
        (g.service.archive.said r.session).length = more := by
      rw [hsaid, List.drop_left]
    simp [news, hr, hdrop]

theorem step (hu : g.service.step k part = some u) :
    Agree a context { g with service := u, record := g.record ++ g.news u (.part k part) } := by
  obtain ⟨r, t, t', more, hr, ht, hstep, hturns, hserves, hnews, hfind, hsaid⟩ := h.part_cases hu
  obtain ⟨hk, -⟩ := List.getElem?_eq_some_iff.mp ht
  rw [hnews]
  refine ⟨?_, ?_, fun x hx => ?_, fun i r' t₁ hr' ht₁ => ?_, fun id => ?_⟩
  · have hoptions := (turnStep_move hstep).options_eq
    rw [← h.context_eq]
    exact congrArg Options.context hoptions
  · rw [hturns, List.length_set]
    exact h.length_eq
  · rcases List.mem_append.mp hx with hx | hx
    · exact h.numbered x hx
    · obtain ⟨m, -, rfl⟩ := List.mem_map.mp hx
      exact h.length_eq ▸ hk
  · rw [ofTurn_append]
    rcases Session.getElem?_set_cases (hturns ▸ ht₁) with ⟨rfl, rfl⟩ | ⟨ht₁, hi⟩
    · obtain rfl := Option.some.inj (hr.symm.trans hr')
      simpa using hserves
    · simpa [hi.symm] using h.serves i r' t₁ hr' ht₁
  · rw [ofSession_append hr, ← List.append_assoc, ← h.said_eq]
    split
    · next hid => exact hid ▸ hsaid
    · next hid =>
      have hother : u.archive.find? id = g.service.archive.find? id := by
        rw [hfind, if_neg (Ne.symm hid)]
      simp [Archive.said, hother]

theorem next (e : Event) : Agree a context (g.next e) := by
  cases e with
  | ask r cancelled => exact h.ask r cancelled
  | receive k => exact h.updateSink k _
  | leave k => exact h.updateSink k _
  | openSession =>
    refine ⟨h.context_eq, h.length_eq, h.numbered, h.serves, fun id => ?_⟩
    exact (g.service.archive.said_create id).trans (h.said_eq id)
  | act e =>
    rw [Minutes.next]
    cases hu : g.service.act e with
    | none => exact h
    | some u =>
      rcases act_cases hu with ⟨k, part, rfl, hu⟩ | ⟨k, rfl, rfl⟩ | ⟨moment, rfl, rfl⟩
      · exact h.step hu
      · simp only [news, List.append_nil]
        refine h.update (f := fun t => { t with cancelled := true }) (fun r ms t ht => ?_) k
        exact ⟨ht.session_eq, ht.delivery_eq, ht.relay_eq, ht.added⟩
      · simp only [news, List.append_nil]
        exact ⟨h.context_eq, h.length_eq, h.numbered, h.serves, h.said_eq⟩

theorem find?_next_of_ne {r : Request} (hr : g.asked[k]? = some r) (hid : id ≠ r.session) :
    (g.next (.act (.part k part))).service.archive.find? id = g.service.archive.find? id := by
  rw [Minutes.next]
  cases hu : g.service.act (.part k part) with
  | none => rfl
  | some u =>
    obtain ⟨r', t, t', more, hr', -, -, -, -, -, hfind, -⟩ := h.part_cases hu
    obtain rfl := Option.some.inj (hr.symm.trans hr')
    change u.archive.find? id = _
    rw [hfind, if_neg hid]

theorem find?_next {tr : Transcript} (htr : g.service.archive.find? id = some tr) (e : Event) :
    ∃ more, (g.next e).service.archive.find? id = some (tr.extend more) := by
  have hsame : ∃ more, g.service.archive.find? id = some (tr.extend more) :=
    ⟨[], by rw [htr, Transcript.extend_nil]⟩
  cases e with
  | ask | receive | leave => exact hsame
  | openSession =>
    rcases g.service.archive.find?_create_cases id with he | ⟨hn, -⟩
    · exact ⟨[], he.trans (by rw [htr, Transcript.extend_nil])⟩
    · cases hn.symm.trans htr
  | act e =>
    rw [Minutes.next]
    cases hu : g.service.act e with
    | none => exact hsame
    | some u =>
      rcases act_cases hu with ⟨k, part, rfl, hu⟩ | ⟨k, rfl, rfl⟩ | ⟨moment, rfl, rfl⟩
      · obtain ⟨r, t, t', more, -, -, -, -, -, -, hfind, -⟩ := h.part_cases hu
        have hid := hfind id
        split at hid
        · exact ⟨more, by rw [hid, htr, Option.map_some]⟩
        · exact hid ▸ hsame
      · exact hsame
      · exact hsame

theorem calls_next (e : Event) :
    (g.next e).service.generator.calls = g.service.generator.calls ∨
      ∃ k part r m, e = .act (.part k part) ∧ g.asked[k]? = some r ∧
        m.role = .user ∧ m.text = r.text ∧ (g.next e).record = g.record ++ [(k, m)] ∧
        (g.next e).service.archive.said r.session = g.service.archive.said r.session ++ [m] ∧
        (g.next e).service.generator.calls = g.service.generator.calls ++
          [{ delivery := r.delivery
             messages := context.shown (g.service.archive.said r.session) m }] := by
  cases e with
  | ask | receive | leave | openSession => exact .inl rfl
  | act e =>
    rw [Minutes.next]
    cases hu : g.service.act e with
    | none => exact .inl rfl
    | some u =>
      rcases act_cases hu with ⟨k, part, rfl, hu⟩ | ⟨k, rfl, rfl⟩ | ⟨moment, rfl, rfl⟩
      · obtain ⟨r, t, t', more, hr, ht, hstep, -, -, hnews, -, hsaid⟩ := h.part_cases hu
        have hserves := h.serves k r t hr ht
        rcases (turnStep_move hstep).call_shown with hsame | ⟨m, hs, hrole, hm, hcalls⟩
        · exact .inl hsame
        · have htext : m.text = r.text := by
            have hadded := hserves.added
            rw [hs] at hadded
            exact hadded.1
          rw [hserves.session_eq] at hm hcalls
          rw [hserves.delivery_eq, h.context_eq] at hcalls
          obtain rfl : more = [m] := List.append_cancel_left (hsaid.symm.trans hm)
          exact .inr ⟨k, part, r, m, rfl, hr, hrole, htext, congrArg _ hnews, hsaid, hcalls⟩
      · exact .inl rfl
      · exact .inl rfl

end Agree

theorem agree_run (a : Archive) (options : Options) (generator : Generator) (es : List Event) :
    Agree a options.context (run a options generator es) := by
  induction es using List.reverseRecOn with
  | nil =>
    exact ⟨rfl, rfl, fun x hx => absurd hx List.not_mem_nil, fun k r t hr => by simp [run] at hr,
      fun id => (List.append_nil _).symm⟩
  | append_singleton es e ih =>
    have hrun : run a options generator (es ++ [e]) = (run a options generator es).next e := by
      simp [run]
    exact hrun ▸ ih.next e

/-- However many turns of however many sessions are interleaved, and whatever happens to them: every
transcript is what was there and then what the turns of its session have recorded; a turn has
recorded what the user said and after it at most one reply; nothing that happens takes anything out
of a transcript, and a step of a turn changes no transcript but its own; and a turn shows the
generator its own message, after the transcript as it is at this moment if the service is set to do
so. -/
theorem turns_stay_apart (a : Archive) (options : Options) (generator : Generator)
    (es : List Event) (e : Event) :
    let g := run a options generator es
    (∀ id, g.service.archive.said id = a.said id ++ g.ofSession id) ∧
    (∀ k t, g.service.turns[k]? = some t → ∃ r, g.asked[k]? = some r ∧ t.session = r.session ∧
      Turn.Added r.text options.context ((g.ofTurn k).map fun m => (m.role, m.text)) t.stage ∧
      ∃ reply, ((g.ofTurn k).map fun m => (m.role, m.text)) <+:
        [(.user, r.text), (.assistant, reply)]) ∧
    (∀ id tr, g.service.archive.find? id = some tr →
      ∃ more, (g.next e).service.archive.find? id = some (tr.extend more)) ∧
    (∀ k part r id, e = .act (.part k part) → g.asked[k]? = some r → id ≠ r.session →
      (g.next e).service.archive.find? id = g.service.archive.find? id) ∧
    ((g.next e).service.generator.calls = g.service.generator.calls ∨
      ∃ k part r m, e = .act (.part k part) ∧ g.asked[k]? = some r ∧
        m.role = .user ∧ m.text = r.text ∧ (g.next e).record = g.record ++ [(k, m)] ∧
        (g.next e).service.archive.said r.session = g.service.archive.said r.session ++ [m] ∧
        (g.next e).service.generator.calls = g.service.generator.calls ++
          [{ delivery := r.delivery
             messages := options.context.shown (g.service.archive.said r.session) m }]) := by
  intro g
  have h : Agree a options.context g := agree_run a options generator es
  refine ⟨h.said_eq, fun k t ht => ?_, fun id tr htr => h.find?_next htr e, ?_, h.calls_next e⟩
  · obtain ⟨r, hr⟩ := h.exists_request ht
    have hserves := h.serves k r t hr ht
    exact ⟨r, hr, hserves.session_eq, hserves.added, added_reply hserves.added⟩
  · rintro k part r id rfl hr hid
    exact h.find?_next_of_ne hr hid

/-- Two turns of one session, one of them streamed, whose messages alternate, beside a turn of
another session. -/
theorem turns_stay_apart_alternating :
    let a : Archive := (Archive.create (Archive.create { clock := default }).2).2
    let generator : Generator :=
      { script := [{ whole := .reply "a", streamed := .error Generator.exhausted },
          { whole := .silence
            streamed := .ok { capacity := 4, increments := [(0, .ofText "b"), (0, .last "!")] } },
          { whole := .reply "c", streamed := .error Generator.exhausted }] }
    let r : Request := { session := .ofSerial 1, delivery := .blocking, text := "A" }
    let parts (k : Nat) (ps : List Turn.Part) : List Event := ps.map fun p => .act (.part k p)
    let es : List Event :=
      [.ask r false, .ask { r with delivery := .streaming, text := "B" } false,
        .ask { r with session := .ofSerial 2, text := "C" } false] ++
      parts 0 [.call] ++ parts 1 [.call] ++ parts 2 [.call, .call] ++ parts 0 [.call] ++
      parts 1 [.call, .feed, .relay, .relay, .feed, .relay, .relay, .relay]
    let g := run a { context := .fullTranscript } generator es
    let g' := g.next (.act (.part 0 .call))
    (g'.service.archive.said (.ofSerial 1)).map (·.text) = ["A", "B", "b!", "a"] ∧
      (g'.ofTurn 0).map (·.text) = ["A", "a"] ∧ (g'.ofTurn 1).map (·.text) = ["B", "b!"] ∧
      g.service.generator.calls.map (·.messages.map (·.text)) = [["A"], ["A", "B"], ["C"]] ∧
      g.asked[0]? = some r ∧ SessionId.ofSerial 2 ≠ r.session ∧
      g'.service.archive.find? (.ofSerial 2) = g.service.archive.find? (.ofSerial 2) := by
  intro a generator r parts es g g'
  have hr : g.asked[0]? = some r := by decide +kernel
  have hid : SessionId.ofSerial 2 ≠ r.session := by decide +kernel
  refine ⟨by decide +kernel, by decide +kernel, by decide +kernel, by decide +kernel, hr, hid, ?_⟩
  -- no part of the run matters for the rest
  clear_value es
  obtain ⟨-, -, -, hothers, -⟩ :=
    turns_stay_apart a { context := .fullTranscript } generator es (.act (.part 0 .call))
  exact hothers 0 .call r (.ofSerial 2) rfl hr hid

end Minutes

end Service

end Parley
