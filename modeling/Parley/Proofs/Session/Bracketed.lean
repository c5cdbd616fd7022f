import Parley.Proofs.Session.Ending
import Parley.Proofs.Session.Prompt

/-! # Replies in brackets

A session and its indicator draw on the same display. Whatever moves they make, every reply is begun
and finished, its text stands in between, and nothing but the indicator draws there besides. A turn
that fails is reported once, after its last reply is finished and its last frame erased.
-/

namespace Parley

namespace Drawing

/-- Whether a drawing may stand between the beginning and the end of a reply. -/
def isInner : Drawing → Bool
  | .replyText _ | .frame _ | .clearThinking => true
  | _ => false

/-- Whether a drawing may stand outside of replies. -/
def isOuter : Drawing → Bool
  | .beginReply _ | .replyText _ | .finishReply => false
  | _ => true

def isFrame : Drawing → Bool
  | .frame _ => true
  | _ => false

/-- Whether a drawing tells that something went wrong. -/
def isReport : Drawing → Bool
  | .warning _ | .error _ => true
  | _ => false

/-- Replies, each with its beginning and its end, and whatever may stand around them. -/
inductive Bracketed : List Drawing → Prop
  | nil : Bracketed []
  | outside {d : Drawing} {ds : List Drawing} : d.isOuter = true → Bracketed ds →
      Bracketed (d :: ds)
  | reply {label : String} {inner ds : List Drawing} : (∀ d ∈ inner, d.isInner = true) →
      Bracketed ds → Bracketed (.beginReply label :: (inner ++ .finishReply :: ds))

/-- The last reply has begun and is not finished yet. -/
def Begun (ds : List Drawing) : Prop :=
  ∃ done label inner, ds = done ++ .beginReply label :: inner ∧ Bracketed done ∧
    ∀ d ∈ inner, d.isInner = true

/-- What was drawn when a reply is open, or when none is. -/
def Nests : Bool → List Drawing → Prop
  | true => Begun
  | false => Bracketed

/-- The last frame is erased. -/
def Erased (ds : List Drawing) : Prop :=
  ∃ before after, ds = before ++ .clearThinking :: after ∧ ∀ d ∈ after, d.isFrame = false

variable {d : Drawing} {ds es : List Drawing} {label text mark : String} {isOpen : Bool}

theorem Bracketed.append (h : Bracketed ds) (hes : Bracketed es) : Bracketed (ds ++ es) := by
  induction h with
  | nil => exact hes
  | outside hd _ ih => exact .outside hd ih
  | reply hinner _ ih =>
    rw [List.cons_append, List.append_assoc, List.cons_append]
    exact .reply hinner ih

theorem bracketed_of_isOuter (h : ∀ d ∈ ds, d.isOuter = true) : Bracketed ds := by
  induction ds with
  | nil => exact .nil
  | cons d ds ih =>
    rw [List.forall_mem_cons] at h
    exact .outside h.1 (ih h.2)

theorem isOuter_of_isWhole (h : d.isWhole = true) : d.isOuter = true := by
  cases d <;> first | rfl | cases h

theorem Bracketed.begin (h : Bracketed ds) (label : String) :
    Begun (ds ++ [.beginReply label]) :=
  ⟨ds, label, [], rfl, h, by simp⟩

theorem Begun.append (h : Begun ds) (hes : ∀ d ∈ es, d.isInner = true) : Begun (ds ++ es) := by
  obtain ⟨done, label, inner, rfl, hdone, hinner⟩ := h
  exact ⟨done, label, inner ++ es, by simp, hdone, List.forall_mem_append.mpr ⟨hinner, hes⟩⟩

theorem Begun.finish (h : Begun ds) : Bracketed (ds ++ [.finishReply]) := by
  obtain ⟨done, label, inner, rfl, hdone, hinner⟩ := h
  rw [List.append_assoc, List.cons_append]
  exact hdone.append (.reply hinner .nil)

theorem Nests.append (h : Nests isOpen ds)
    (hes : ∀ d ∈ es, d.isInner = true ∧ d.isOuter = true) : Nests isOpen (ds ++ es) := by
  cases isOpen with
  | true => exact Begun.append h fun d hd => (hes d hd).1
  | false => exact Bracketed.append h (bracketed_of_isOuter fun d hd => (hes d hd).2)

theorem Erased.append (h : Erased ds) (hes : ∀ d ∈ es, d.isFrame = false) : Erased (ds ++ es) := by
  obtain ⟨before, after, rfl, hafter⟩ := h
  exact ⟨before, after ++ es, by simp, List.forall_mem_append.mpr ⟨hafter, hes⟩⟩

end Drawing

namespace Session

open Drawing (Bracketed Begun Nests Erased)

def Stage.isOpen : Stage → Bool
  | .inTurn _ phase => phase.isOpen
  | .awaiting | .over _ => false

variable {s s' b e u : Session} {k : Nat} {phase : Phase} {ending : Ending} {ds : List Drawing}
  {m : Move}

theorem of_indicator {i i' : Indicator} {now : Nat} {cancelled : Bool}
    (h : i.step now cancelled = some (i', ds)) :
    ∀ d ∈ ds, d.isInner = true ∧ d.isOuter = true ∧ d.isReport = false := by
  rcases Indicator.step_cases h with ⟨-, -, -, rfl⟩ | ⟨-, rfl⟩ | ⟨mark, due, -, -, rfl⟩ <;>
    simp [Drawing.isInner, Drawing.isOuter, Drawing.isReport]

theorem bracketed_wholeReply (s : Session) (reply : String) : Bracketed (s.wholeReply reply) := by
  have hinner : ∀ d ∈ [Drawing.replyText reply], d.isInner = true := by simp [Drawing.isInner]
  exact .reply hinner .nil

theorem mem_wholeReply {reply : String} :
    ∀ d ∈ s.wholeReply reply, d.isFrame = false ∧ d.isReport = false := by
  simp [wholeReply, Drawing.isFrame, Drawing.isReport]

theorem bracketed_endingDrawings (h : Nests (Phase.closing ending).isOpen ds) :
    Bracketed (ds ++ s.endingDrawings ending) := by
  rcases ending with (_ | reply) | ⟨shown, failure⟩
  · rw [endingDrawings, List.append_nil]
    exact h
  · exact Bracketed.append h (bracketed_wholeReply s reply)
  · cases shown with
    | true => exact Begun.finish h
    | false =>
      rw [endingDrawings, if_neg (by simp), List.append_nil]
      exact h

theorem mem_endingDrawings :
    ∀ d ∈ s.endingDrawings ending, d.isFrame = false ∧ d.isReport = false := by
  rcases ending with (_ | reply) | ⟨shown, failure⟩
  · simp [endingDrawings]
  · exact mem_wholeReply
  · cases shown <;> simp [endingDrawings, Drawing.isFrame, Drawing.isReport]

/-- A failure is reported at the very end, after a reply that is lost to the history. -/
theorem failureDrawings_eq (s : Session) (e : Error) :
    ∃ lost report, s.failureDrawings e = lost ++ [report] ∧ report.isReport = true ∧
      Bracketed lost ∧ ∀ d ∈ lost, d.isFrame = false ∧ d.isReport = false := by
  unfold failureDrawings
  split
  · next reply _ => exact ⟨_, _, rfl, rfl, bracketed_wholeReply s reply, mem_wholeReply⟩
  · split
    · exact ⟨[], _, rfl, rfl, .nil, by simp⟩
    · exact ⟨[], _, rfl, rfl, .nil, by simp⟩

theorem lastDrawings_cases (h : Nests (Phase.closing ending).isOpen ds) :
    (s.outcome k ending = .ok () ∧ Bracketed (ds ++ s.lastDrawings k ending) ∧
      ∀ d ∈ s.lastDrawings k ending, d.isReport = false) ∨
    ∃ e more report, s.outcome k ending = .error e ∧
      s.lastDrawings k ending = more ++ [report] ∧ report.isReport = true ∧
      Bracketed (ds ++ more) ∧ ∀ d ∈ more, d.isFrame = false ∧ d.isReport = false := by
  have hfinished := bracketed_endingDrawings (s := s) h
  unfold lastDrawings
  cases ho : s.outcome k ending with
  | ok =>
    refine .inl ⟨rfl, ?_, ?_⟩
    · rwa [List.append_nil]
    · rw [List.append_nil]
      exact fun d hd => (mem_endingDrawings d hd).2
  | error e =>
    obtain ⟨lost, report, he, hreport, hlost, hmem⟩ := s.failureDrawings_eq e
    refine .inr ⟨e, s.endingDrawings ending ++ lost, report, rfl, ?_, hreport, ?_,
      List.forall_mem_append.mpr ⟨mem_endingDrawings, hmem⟩⟩
    · simp only [he, List.append_assoc]
    · rw [← List.append_assoc]
      exact hfinished.append hlost

theorem bracketed_lastDrawings (h : Nests (Phase.closing ending).isOpen ds) :
    Bracketed (ds ++ s.lastDrawings k ending) := by
  rcases lastDrawings_cases h with ⟨-, hbracketed, -⟩ | ⟨e, more, report, -, hlast, hreport, hb, -⟩
  · exact hbracketed
  · rw [hlast, ← List.append_assoc]
    refine hb.append (.outside ?_ .nil)
    cases report <;> first | rfl | cases hreport

theorem TurnMove.draws (h : TurnMove s k phase s') :
    (∃ phase' more, s'.stage = .inTurn k phase' ∧ s'.settings = s.settings ∧
      (s'.indicator = s.indicator ∨ s'.indicator = s.indicator.map Indicator.release) ∧
      s'.drawings = s.drawings ++ more ∧ (∀ d ∈ more, d.isFrame = false ∧ d.isReport = false) ∧
      ∀ ds, Nests phase.isOpen ds → Nests phase'.isOpen (ds ++ more)) ∨
    ∃ ending, phase = .closing ending ∧ s' = s.conclude k ending ∧
      ∀ i ∈ s.indicator, i.hasEnded = true := by
  have hsame {phase' : Phase} (ho : phase'.isOpen = phase.isOpen) :
      ∀ ds, Nests phase.isOpen ds → Nests phase'.isOpen (ds ++ []) := by
    intro ds hds
    rwa [List.append_nil, ho]
  cases h with
  | answered | seeEnd =>
    exact .inl ⟨_, [], rfl, rfl, .inr rfl, (List.append_nil _).symm, by simp, hsame rfl⟩
  | opened => exact .inl ⟨_, [], rfl, rfl, .inl rfl, (List.append_nil _).symm, by simp, hsame rfl⟩
  | @receive _ _ _ i sink shown failure =>
    left
    unfold Session.receive
    split
    · exact ⟨_, [], rfl, rfl, .inl rfl, (List.append_nil _).symm, by simp, hsame rfl⟩
    · split
      · exact ⟨_, [], rfl, rfl, .inl rfl, (List.append_nil _).symm, by simp, hsame rfl⟩
      · refine ⟨_, _, rfl, rfl, .inl rfl, drawings_draw _ _, ?_, ?_⟩
        · cases shown <;> simp [Drawing.isFrame, Drawing.isReport]
        · intro ds hds
          have hinner : ∀ d ∈ [Drawing.replyText i.text], d.isInner = true := by
            simp [Drawing.isInner]
          cases shown with
          | true => exact Begun.append hds hinner
          | false =>
            have hbegun := (Bracketed.begin hds s.settings.assistantName).append hinner
            rwa [List.append_assoc] at hbegun
  | conclude hended => exact .inr ⟨_, rfl, rfl, hended⟩

theorem nests_took {reading : Except Error Reading} (h : Bracketed s.drawings)
    (hs : s.stage = .awaiting) (ht : Took s reading s') :
    Nests s'.stage.isOpen s'.drawings := by
  cases ht with
  | «over» | turn => exact h
  | settle _ _ hsettles =>
    obtain ⟨ds, hevents, hwhole⟩ := hsettles.drawn
    rw [hsettles.stage_eq, hs, drawings_of_events hevents]
    exact h.append (Drawing.bracketed_of_isOuter fun d hd =>
      Drawing.isOuter_of_isWhole (hwhole d hd))

theorem nests_does (h : Nests s.stage.isOpen s.drawings) (hd : Does s m s') :
    Nests s'.stage.isOpen s'.drawings := by
  cases hd with
  | leave hs =>
    rw [hs] at h
    exact h
  | read hs =>
    rw [hs] at h
    rcases readLine_took s with ⟨-, he⟩ | ⟨e, rest, s₁, -, hbeside, htook⟩
    · rw [he]
      change Bracketed (s.prompted []).drawings
      rw [drawings_prompted]
      exact h
    · refine nests_took ?_ (hbeside.stage_eq.trans hs) htook
      rw [hbeside.drawings_eq, drawings_prompted]
      exact h
  | turn hs hmove =>
    rw [hs] at h
    rcases hmove.draws with ⟨phase', more, hs', -, -, hdrawings, -, hmore⟩ | ⟨ending, rfl, rfl, -⟩
    · rw [hs', hdrawings]
      exact hmore _ h
    · rw [drawings_conclude]
      exact bracketed_lastDrawings h
  | part => exact h
  | indicator hi hstep =>
    rw [drawings_draw]
    exact h.append fun d hd => ⟨(of_indicator hstep d hd).1, (of_indicator hstep d hd).2.1⟩
  | beside _ _ hbeside =>
    rw [hbeside.stage_eq, hbeside.drawings_eq]
    exact h

/-- What an indicator has left on the display, at every stage. -/
def Traces (interval : Nat) (ds : List Drawing) : Indicator.Stage → Prop
  | .fresh => ∀ d ∈ ds, d.isFrame = false
  | .ticking _ => True
  | .ended => Erased ds ∨ interval = 0 ∧ ∀ d ∈ ds, d.isFrame = false

/-- A turn is under way that began in `b` and has drawn this much since. -/
structure Midway (b : Session) (k : Nat) (phase : Phase) (ds : List Drawing) (s : Session) :
    Prop where
  stage_eq : s.stage = .inTurn k phase
  known : k < s.service.turns.length
  settings_eq : s.settings = b.settings
  drawings_eq : s.drawings = b.drawings ++ ds
  nests : Nests phase.isOpen ds
  unreported : ∀ d ∈ ds, d.isReport = false
  traces : ∃ i, s.indicator = some i ∧ i.interval = b.settings.indicatorInterval ∧
    Traces i.interval ds i.stage

theorem Traces.append {interval : Nat} {stage : Indicator.Stage} {es : List Drawing}
    (h : Traces interval ds stage) (hes : ∀ d ∈ es, d.isFrame = false) :
    Traces interval (ds ++ es) stage := by
  cases stage with
  | fresh => exact List.forall_mem_append.mpr ⟨h, hes⟩
  | ticking => trivial
  | ended =>
    rcases h with h | ⟨hi, hds⟩
    · exact .inl (h.append hes)
    · exact .inr ⟨hi, List.forall_mem_append.mpr ⟨hds, hes⟩⟩

theorem Traces.step {i i' : Indicator} {now : Nat} {cancelled : Bool} {es : List Drawing}
    (h : Traces i.interval ds i.stage) (hstep : i.step now cancelled = some (i', es)) :
    i'.interval = i.interval ∧ Traces i'.interval (ds ++ es) i'.stage := by
  rcases Indicator.step_cases hstep with ⟨hs, hi, rfl, rfl⟩ | ⟨rfl, rfl⟩ | ⟨mark, due, hs, hi, -⟩
  · rw [hs] at h
    rw [List.append_nil]
    exact ⟨rfl, .inr ⟨hi, h⟩⟩
  · exact ⟨rfl, .inl ⟨ds, [], rfl, by simp⟩⟩
  · rw [hs]
    exact ⟨hi, trivial⟩

theorem midway_beginTurn (s : Session) (text : String) :
    Midway (s.beginTurn text) s.service.turns.length .calling [] (s.beginTurn text) where
  stage_eq := rfl
  known := by simp [beginTurn, Service.ask]
  settings_eq := rfl
  drawings_eq := (List.append_nil _).symm
  nests := .nil
  unreported := by simp
  traces := ⟨_, rfl, rfl, fun d hd => absurd hd List.not_mem_nil⟩

/-- A turn under way goes on, or it is concluded and left behind. -/
theorem Midway.step (h : Midway b k phase ds s) (hm : s.step m = some s') :
    (∃ phase' ds', Midway b k phase' ds' s') ∨ Past k s' := by
  have hknown := Nat.lt_of_lt_of_le h.known (onward_step hm).service.length_le
  obtain ⟨i, hi, hinterval, htraces⟩ := h.traces
  cases does_of_step hm with
  | leave hs | read hs => exact absurd (h.stage_eq.symm.trans hs) (by simp)
  | turn hs hmove =>
    obtain ⟨rfl, rfl⟩ := Stage.inTurn.inj (h.stage_eq.symm.trans hs)
    rcases hmove.draws with
      ⟨phase', more, hs', hsettings, hindicator, hdrawings, hmem, hmore⟩ | ⟨ending, -, rfl, -⟩
    · refine .inl ⟨phase', ds ++ more, hs', hknown, hsettings.trans h.settings_eq, ?_,
        hmore ds h.nests,
        List.forall_mem_append.mpr ⟨h.unreported, fun d hd => (hmem d hd).2⟩, ?_⟩
      · rw [hdrawings, h.drawings_eq, List.append_assoc]
      · have htraces' := htraces.append fun d hd => (hmem d hd).1
        rcases hindicator with he | he
        · exact ⟨i, he.trans hi, hinterval, htraces'⟩
        · exact ⟨i.release, by rw [he, hi, Option.map_some], hinterval, htraces'⟩
    · exact .inr ⟨hknown, fun phase' hs' => by cases hs'⟩
  | part =>
    exact .inl ⟨phase, ds, h.stage_eq, hknown, h.settings_eq, h.drawings_eq, h.nests, h.unreported,
      i, hi, hinterval, htraces⟩
  | @indicator j i' es hj hstep =>
    obtain rfl := Option.some.inj (hi.symm.trans hj)
    obtain ⟨hinterval', htraces'⟩ := htraces.step hstep
    have hdrawn := of_indicator hstep
    refine .inl ⟨phase, ds ++ es, h.stage_eq, hknown, h.settings_eq, ?_,
      h.nests.append fun d hd => ⟨(hdrawn d hd).1, (hdrawn d hd).2.1⟩,
      List.forall_mem_append.mpr ⟨h.unreported, fun d hd => (hdrawn d hd).2.2⟩,
      i', rfl, hinterval'.trans hinterval, htraces'⟩
    rw [drawings_draw, ← List.append_assoc, ← h.drawings_eq]
    rfl
  | beside _ _ hbeside =>
    exact .inl ⟨phase, ds, hbeside.stage_eq.trans h.stage_eq, hknown,
      hbeside.settings_eq.trans h.settings_eq, hbeside.drawings_eq.trans h.drawings_eq, h.nests,
      h.unreported, i, hbeside.indicator_eq.trans hi, hinterval, htraces⟩

theorem WholeTurn.midway {s₀ : Session} (h : WholeTurn s₀ b k ending e s') :
    ∃ ds, Midway b k (.closing ending) ds e := by
  have hfirst : Midway b k .calling [] b := by
    have hstage := h.first
    obtain ⟨s, -, hs, -, rfl⟩ := h.reads
    obtain ⟨rest, s₁, text, -, hread, -, -⟩ := readLine_begins hs hstage
    rw [hread] at hstage ⊢
    obtain ⟨rfl, -⟩ := Stage.inTurn.inj hstage
    exact midway_beginTurn s₁ text
  have hrun : (∃ phase ds, Midway b k phase ds e) ∨ Past k e := by
    refine h.leads.keeps (P := fun u => (∃ phase ds, Midway b k phase ds u) ∨ Past k u) ?_
      (.inl ⟨_, _, hfirst⟩)
    rintro u u' m (⟨phase, ds, hu⟩ | hu) hm
    · exact hu.step hm
    · exact .inr (hu.step hm)
  rcases hrun with ⟨phase, ds, he⟩ | hpast
  · obtain ⟨-, rfl⟩ := Stage.inTurn.inj (he.stage_eq.symm.trans h.last)
    exact ⟨ds, he⟩
  · exact absurd h.last (hpast.2 _)

theorem WholeTurn.ended {s₀ : Session} (h : WholeTurn s₀ b k ending e s') :
    ∀ i ∈ e.indicator, i.hasEnded = true := by
  cases h.concludes with
  | conclude hended => exact hended

section

variable {service : Service} {settings : Settings} {input : List Entry} {cancelled : Bool}
  {s₀ : Session}

theorem Leads.nests (hnew : Session.new service settings input cancelled = .ok s₀)
    (h : s₀.Leads s) : Nests s.stage.isOpen s.drawings := by
  refine h.keeps (P := fun s => Nests s.stage.isOpen s.drawings)
    (fun _ hu hm => nests_does hu (does_of_step hm)) ?_
  obtain ⟨_, _, -, rfl⟩ := new_eq_ok_iff.mp hnew
  exact Bracketed.nil

/-- In every run of a session each reply is begun and finished, with nothing but its text and the
indicator in between, and no reply is open at the prompt. What a turn draws holds no report if the
turn ended well; if it failed, the last drawing is a report and the only one, and before it every
reply was finished and the last frame erased. An indicator without an interval draws no frame. -/
theorem draws_in_brackets (hnew : Session.new service settings input cancelled = .ok s₀) :
    (∀ s, s₀.Leads s → Nests s.stage.isOpen s.drawings) ∧
    (∀ s, s₀.Leads s → s.stage = .awaiting → Bracketed s.drawings) ∧
    ∀ b k ending e s', WholeTurn s₀ b k ending e s' →
      ∃ ds, s'.drawings = b.drawings ++ ds ∧ Bracketed ds ∧
        ((e.outcome k ending = .ok () ∧ ∀ d ∈ ds, d.isReport = false) ∨
          ∃ failure before report, e.outcome k ending = .error failure ∧ ds = before ++ [report] ∧
            report.isReport = true ∧ (∀ d ∈ before, d.isReport = false) ∧ Bracketed before ∧
            (Erased before ∨
              b.settings.indicatorInterval = 0 ∧ ∀ d ∈ before, d.isFrame = false)) := by
  refine ⟨fun s hs => hs.nests hnew, fun s hs hstage => ?_, ?_⟩
  · have hnests := hs.nests hnew
    rw [hstage] at hnests
    exact hnests
  · intro b k ending e s' h
    obtain ⟨ds, hmidway⟩ := h.midway
    obtain ⟨i, hi, hinterval, htraces⟩ := hmidway.traces
    have hgone : i.stage = .ended := by simpa [Indicator.hasEnded] using h.ended i hi
    rw [hgone, hinterval] at htraces
    refine ⟨ds ++ e.lastDrawings k ending, ?_, bracketed_lastDrawings hmidway.nests, ?_⟩
    · rw [h.conclude_eq, drawings_conclude, hmidway.drawings_eq, List.append_assoc]
    · rcases lastDrawings_cases hmidway.nests with
        ⟨hok, -, hmem⟩ | ⟨failure, more, report, hfailed, hlast, hreport, hbracketed, hmem⟩
      · exact .inl ⟨hok, List.forall_mem_append.mpr ⟨hmidway.unreported, hmem⟩⟩
      · have hbefore : Traces b.settings.indicatorInterval (ds ++ more) .ended :=
          Traces.append htraces fun d hd => (hmem d hd).1
        refine .inr ⟨failure, ds ++ more, report, hfailed, ?_, hreport,
          List.forall_mem_append.mpr ⟨hmidway.unreported, fun d hd => (hmem d hd).2⟩, hbracketed,
          hbefore⟩
        rw [hlast, List.append_assoc]

/-- A stream that fails after some of its text was shown, with a frame drawn before. -/
theorem draws_in_brackets_failed :
    let failure : Error := .stream "connection lost" .none
    let plan : StreamPlan :=
      { capacity := 4, increments := [(0, .ofText "Hel"), (0, .failed failure)] }
    let service : Service :=
      { archive := { clock := default }
        generator := { script := [{ whole := .silence, streamed := .ok plan }] } }
    let moves : List Move :=
      [.indicator, .part 0 .call, .part 0 .call, .loop, .part 0 .feed, .part 0 .relay,
        .part 0 .relay, .part 0 .relay, .loop, .part 0 .feed, .part 0 .relay, .part 0 .relay,
        .part 0 .relay, .part 0 .relay, .part 0 .relay, .loop, .loop, .indicator]
    ∃ s₀ b e s', Session.new service {} [{ reading := .ok (.line "Hi") }] = .ok s₀ ∧
      s₀.step .loop = some b ∧ moves.foldlM Session.step b = some e ∧ e.step .loop = some s' ∧
      s'.drawings = [.frame "⠋", .beginReply "Assistant", .replyText "Hel", .clearThinking,
        .finishReply, .error "Stream error: connection lost"] ∧
      Bracketed s'.drawings ∧ ∃ before report, s'.drawings = before ++ [report] ∧
        report.isReport = true ∧ Bracketed before ∧ Erased before := by
  intro failure plan service moves
  let opened := (Session.new service {} [{ reading := .ok (.line "Hi") }]).toOption
  let begun := opened.bind (·.step .loop)
  let closing := begun.bind fun b => moves.foldlM Session.step b
  let ended := closing.bind (·.step .loop)
  obtain ⟨s', hended⟩ : ∃ s', ended = some s' := Option.isSome_iff_exists.mp (by decide +kernel)
  obtain ⟨e, hclosing, hs'⟩ := Option.bind_eq_some_iff.mp hended
  obtain ⟨b, hbegun, hmoves⟩ := Option.bind_eq_some_iff.mp hclosing
  obtain ⟨s₀, hopened, hb⟩ := Option.bind_eq_some_iff.mp hbegun
  have hnew := toOption_eq_some_iff.mp hopened
  have hfirst : begun.map Session.stage = some (.inTurn 0 .calling) := by decide +kernel
  have hinterval : begun.map (·.settings.indicatorInterval) = some 100 := by decide +kernel
  have hnone : begun.map drawings = some [] := by decide +kernel
  have hlast : closing.map Session.stage =
      some (.inTurn 0 (.closing (.streamed true (some failure)))) := by decide +kernel
  have hdrawn : ended.map drawings = some [.frame "⠋", .beginReply "Assistant", .replyText "Hel",
    .clearThinking, .finishReply, .error "Stream error: connection lost"] := by decide +kernel
  simp only [hbegun, Option.map_some, Option.some.injEq] at hfirst hinterval hnone
  simp only [hclosing, Option.map_some, Option.some.injEq] at hlast
  simp only [hended, Option.map_some, Option.some.injEq] at hdrawn
  have hawaiting : s₀.stage = .awaiting := by
    obtain rfl := Except.ok.inj hnew
    rfl
  have hturn : WholeTurn s₀ b 0 (.streamed true (some failure)) e s' :=
    ⟨⟨s₀, .refl s₀, hawaiting, hb⟩, hfirst, ⟨moves, hmoves⟩, hlast, hs'⟩
  obtain ⟨-, -, hturns⟩ := draws_in_brackets hnew
  obtain ⟨ds, hds, hbracketed, ⟨hok, -⟩ | ⟨_, before, report, -, rfl, hreport, -, hbefore, herased⟩⟩ :=
    hturns b 0 _ e s' hturn
  · cases hok
  · rw [hnone, List.nil_append] at hds
    refine ⟨s₀, b, e, s', hnew, hb, hmoves, hs', hdrawn, hds ▸ hbracketed, before, report, hds,
      hreport, hbefore, ?_⟩
    rcases herased with herased | ⟨hzero, -⟩
    · exact herased
    · simp [hinterval] at hzero

end

end Session

end Parley
