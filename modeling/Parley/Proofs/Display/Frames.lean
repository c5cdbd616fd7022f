import Parley.Proofs.Display.Plain

/-! # Frames between the lines

On a display with colors the frames of the thinking indicator come in groups. Without the groups the
output is that of the other drawings alone. A group stands in no reply and on a line of its own, and
the line is erased, or the whole screen, before anything else is written.
-/

namespace Parley

namespace Drawing

/-- Whether a reply stands open after a drawing, if the drawing has a say in it. -/
def opens? : Drawing → Option Bool
  | .beginReply _ => some true
  | .replyText _ | .frame _ | .clearThinking => none
  | _ => some false

def replyOpen (ds : List Drawing) : Bool :=
  (ds.filterMap opens?).getLast?.getD false

/-- The text of replies is drawn in replies only. -/
def TextInReplies (ds : List Drawing) : Prop :=
  ∀ before text after, ds = before ++ .replyText text :: after → replyOpen before = true

def mark? : Drawing → Option String
  | .frame mark => some mark
  | _ => none

variable {ds es : List Drawing} {x : Drawing}

theorem replyOpen_concat : replyOpen (ds ++ [x]) = x.opens?.getD (replyOpen ds) := by
  unfold replyOpen
  rw [List.filterMap_append]
  cases hx : x.opens? with
  | none => simp [hx]
  | some isOpen => simp [hx]

theorem opens?_eq_none (h : x.isLasting = false) : x.opens? = none := by
  cases x <;> first | rfl | cases h

theorem replyOpen_lasting (ds : List Drawing) : replyOpen (lasting ds) = replyOpen ds := by
  unfold replyOpen lasting
  rw [List.filterMap_filter]
  congr 3
  ext1 x
  cases hx : x.isLasting with
  | true => rfl
  | false => simp [opens?_eq_none hx]

theorem TextInReplies.left (h : TextInReplies (ds ++ es)) : TextInReplies ds := by
  rintro before text after rfl
  exact h before text (after ++ es) (by simp)

theorem TextInReplies.lasting (h : TextInReplies ds) : TextInReplies (lasting ds) := by
  intro before text after he
  obtain ⟨front, back, rfl, rfl, hback⟩ := List.filter_eq_append_iff.mp he
  obtain ⟨more, rest, rfl, hmore, -⟩ := List.filter_eq_cons_iff.mp hback
  have hopen := h (front ++ more) text rest (by simp)
  have hnone : Drawing.lasting more = [] := List.filter_eq_nil_iff.mpr hmore
  rw [← replyOpen_lasting, lasting_append, hnone, List.append_nil] at hopen
  exact hopen

end Drawing

namespace Display

open Drawing

def frameText (mark : String) : String :=
  "\r" ++ Style.dim ++ mark ++ " thinking..." ++ Style.reset

/-- A part of the output: what a lasting drawing writes, or a group of frames that is erased in the
end or not. -/
inductive Part where
  | kept (x : Drawing) (text : String)
  | group (marks : List String) (erased : Bool)

namespace Part

def text : Part → String
  | .kept _ text => text
  | .group marks erased =>
    String.join (marks.map frameText) ++ if erased then eraseLine else ""

def kept? : Part → Option (Drawing × String)
  | .kept x text => some (x, text)
  | .group .. => none

def marks : Part → List String
  | .kept .. => []
  | .group marks _ => marks

/-- A group of some marks; none if there are none. -/
def ofMarks (marks : List String) (erased : Bool) : List Part :=
  if marks = [] then [] else [.group marks erased]

end Part

/-- Nothing stands before the next text on its line. -/
def BeginsLine (text : String) : Prop :=
  text = "" ∨ (∃ line, text = line ++ "\n") ∨ ∃ screen, text = screen ++ eraseScreen

/-- The output in parts, when some frames show already. -/
def parts (d : Display) (shown : List String) : List Drawing → List Part
  | [] => Part.ofMarks shown false
  | .frame mark :: ds => parts d (if d.inReply then shown else shown ++ [mark]) ds
  | .clearThinking :: ds => Part.ofMarks shown true ++ parts d [] ds
  | x :: ds =>
    Part.ofMarks shown (x ≠ .clearScreen) ++ .kept x (d.draw x).2 :: parts (d.draw x).1 [] ds

variable {d : Display} {ds : List Drawing} {x : Drawing} {shown : List String}

theorem inReply_draw (d : Display) (x : Drawing) :
    (d.draw x).1.inReply = x.opens?.getD d.inReply := by
  cases x with
  | frame =>
    simp only [draw, opens?]
    split <;> rfl
  | _ => rfl

theorem inReply_after (d : Display) (ds : List Drawing) :
    (d.after ds).inReply = (ds.filterMap opens?).getLast?.getD d.inReply := by
  induction ds generalizing d with
  | nil => rfl
  | cons x ds ih =>
    rw [after, ih, inReply_draw]
    cases hx : x.opens? with
    | none => rw [List.filterMap_cons_none hx]; rfl
    | some isOpen =>
      rw [List.filterMap_cons_some hx, List.getLast?_cons, Option.getD_some, Option.getD_some]

theorem parts_cons (hx : x.isLasting = true) : parts d shown (x :: ds) =
    Part.ofMarks shown (x ≠ .clearScreen) ++ .kept x (d.draw x).2 :: parts (d.draw x).1 [] ds := by
  cases x <;> first | rfl | cases hx

theorem draw_showing (hx : x.isLasting = true) (hd : d.frameShowing = false) (showing : Bool) :
    { d with frameShowing := showing }.draw x =
      ((d.draw x).1, (if showing ∧ x ≠ .clearScreen then eraseLine else "") ++ (d.draw x).2) := by
  obtain ⟨colored, inReply, frameShowing⟩ := d
  obtain rfl : frameShowing = false := hd
  cases x with
  | frame | clearThinking => cases hx
  | _ => cases showing <;> simp [draw, line, erasure, withoutFrame, replyLabel, String.append_assoc]

theorem frameShowing_draw (hx : x.isLasting = true) (d : Display) :
    (d.draw x).1.frameShowing = false ∧ (d.draw x).1.colored = d.colored := by
  cases x <;> first | exact ⟨rfl, rfl⟩ | cases hx

theorem setFrame_eq_self (hd : d.frameShowing = false) : { d with frameShowing := false } = d := by
  obtain ⟨colored, inReply, frameShowing⟩ := d
  obtain rfl : frameShowing = false := hd
  rfl

theorem join_ofMarks (shown : List String) (erased : Bool) :
    String.join ((Part.ofMarks shown erased).map Part.text) =
      String.join (shown.map frameText) ++ if shown ≠ [] ∧ erased then eraseLine else "" := by
  unfold Part.ofMarks
  cases shown <;> simp [Part.text]

theorem join_parts (d : Display) (shown : List String) (ds : List Drawing)
    (hc : d.colored = true) (hf : d.frameShowing = false)
    (hshown : shown ≠ [] → d.inReply = false) :
    String.join ((parts d shown ds).map Part.text) = String.join (shown.map frameText) ++
      { d with frameShowing := shown ≠ [] }.output ds := by
  induction ds generalizing d shown with
  | nil =>
    rw [parts, join_ofMarks]
    simp [output, texts]
  | cons x ds ih =>
    rw [output_cons]
    cases hx : x.isLasting with
    | true =>
      obtain ⟨hf', hc'⟩ := frameShowing_draw hx d
      have hrest := ih (d.draw x).1 [] (hc'.trans hc) hf' (by simp)
      rw [parts_cons hx, draw_showing hx hf (shown ≠ []), List.map_append, String.join_append,
        join_ofMarks, List.map_cons, String.join_cons, hrest]
      simp [Part.text, setFrame_eq_self hf', String.append_assoc]
    | false =>
      cases x with
      | frame mark =>
        cases ho : d.inReply with
        | true =>
          have hnone : shown = [] := by
            by_contra hne
            simp [hshown hne] at ho
          subst hnone
          have hrest := ih d [] hc hf (by simp)
          simp [parts, ho, hrest, draw, hc]
        | false =>
          have hrest := ih d (shown ++ [mark]) hc hf (fun _ => ho)
          simp [parts, ho, hrest, draw, hc, frameText, String.append_assoc]
      | clearThinking =>
        have hrest := ih d [] hc hf (by simp)
        rw [parts, List.map_append, String.join_append, join_ofMarks, hrest]
        simp [draw, withoutFrame, erasure, setFrame_eq_self hf, String.append_assoc]
      | _ => cases hx

theorem filterMap_kept?_cons (x : Drawing) (text : String) (ps : List Part) :
    (Part.kept x text :: ps).filterMap Part.kept? = (x, text) :: ps.filterMap Part.kept? :=
  rfl

theorem filterMap_kept?_ofMarks (shown : List String) (erased : Bool) :
    (Part.ofMarks shown erased).filterMap Part.kept? = [] := by
  unfold Part.ofMarks
  split <;> rfl

/-- Without the groups the parts are what the lasting drawings write by themselves. -/
theorem filterMap_kept?_parts (d : Display) (shown : List String) (ds : List Drawing) :
    (parts d shown ds).filterMap Part.kept? = (lasting ds).zip (d.texts (lasting ds)) := by
  induction ds generalizing d shown with
  | nil => exact filterMap_kept?_ofMarks shown false
  | cons x ds ih =>
    cases hx : x.isLasting with
    | true =>
      rw [parts_cons hx, List.filterMap_append, filterMap_kept?_ofMarks, lasting_cons hx,
        List.nil_append, filterMap_kept?_cons, ih]
      rfl
    | false =>
      rw [lasting_cons_of_not hx]
      cases x with
      | frame mark => exact ih d _
      | clearThinking => rw [parts, List.filterMap_append, filterMap_kept?_ofMarks, ih]; rfl
      | _ => cases hx

theorem flatMap_marks_ofMarks (shown : List String) (erased : Bool) :
    (Part.ofMarks shown erased).flatMap Part.marks = shown := by
  unfold Part.ofMarks
  cases shown <;> simp [Part.marks]

theorem flatMap_marks_parts (d : Display) (shown : List String) (ds : List Drawing) :
    ((parts d shown ds).flatMap Part.marks).Sublist (shown ++ ds.filterMap mark?) := by
  induction ds generalizing d shown with
  | nil => simp [parts, flatMap_marks_ofMarks]
  | cons x ds ih =>
    cases hx : x.isLasting with
    | true =>
      rw [parts_cons hx, List.flatMap_append, flatMap_marks_ofMarks, List.flatMap_cons]
      have hnone : x.mark? = none := by cases x <;> first | rfl | cases hx
      rw [List.filterMap_cons_none hnone]
      exact (ih _ []).append_left shown
    | false =>
      cases x with
      | frame mark =>
        have hmark : (Drawing.frame mark :: ds).filterMap mark? = mark :: ds.filterMap mark? := rfl
        rw [hmark]
        unfold parts
        split
        · exact (ih d shown).trans (List.Sublist.append_left (List.sublist_cons_self ..) shown)
        · simpa using ih d (shown ++ [mark])
      | clearThinking =>
        rw [parts, List.flatMap_append, flatMap_marks_ofMarks]
        exact (ih d []).append_left shown
      | _ => cases hx

theorem ofMarks_append_eq {erased erased' : Bool} {rest before after : List Part}
    {marks : List String}
    (h : Part.ofMarks shown erased' ++ rest = before ++ .group marks erased :: after) :
    (before = [] ∧ marks = shown ∧ shown ≠ [] ∧ erased = erased' ∧ after = rest) ∨
      ∃ before', before = Part.ofMarks shown erased' ++ before' ∧
        rest = before' ++ .group marks erased :: after := by
  unfold Part.ofMarks at h ⊢
  split at h
  · next hnone => exact .inr ⟨before, by simp [hnone], h⟩
  · next hne =>
    cases before with
    | nil =>
      simp only [List.cons_append, List.nil_append, List.cons.injEq, Part.group.injEq] at h
      obtain ⟨⟨rfl, rfl⟩, rfl⟩ := h
      exact .inl ⟨rfl, rfl, hne, rfl, rfl⟩
    | cons p before =>
      simp only [List.cons_append, List.nil_append, List.cons.injEq] at h
      obtain ⟨rfl, rfl⟩ := h
      exact .inr ⟨before, by simp [hne], rfl⟩

/-- A group begins where no reply is open, and ends with the erasure of its line or of the screen,
or with the output. -/
theorem parts_eq_append {before after : List Part} {marks : List String} {erased : Bool}
    (hshown : shown ≠ [] → d.inReply = false)
    (h : parts d shown ds = before ++ .group marks erased :: after) :
    marks ≠ [] ∧
      (erased = true ∨ after = [] ∨ ∃ rest, after = .kept .clearScreen eraseScreen :: rest) ∧
      ∃ front back, ds = front ++ back ∧ (d.after (lasting front)).inReply = false ∧
        before.filterMap Part.kept? = (lasting front).zip (d.texts (lasting front)) := by
  induction ds generalizing d shown before with
  | nil =>
    rw [parts, ← List.append_nil (Part.ofMarks shown false)] at h
    rcases ofMarks_append_eq h with ⟨rfl, rfl, hne, -, rfl⟩ | ⟨before', -, hrest⟩
    · exact ⟨hne, .inr (.inl rfl), [], [], rfl, hshown hne, rfl⟩
    · simp at hrest
  | cons x ds ih =>
    cases hx : x.isLasting with
    | true =>
      rw [parts_cons hx] at h
      rcases ofMarks_append_eq h with ⟨rfl, rfl, hne, he, rfl⟩ | ⟨before', rfl, hrest⟩
      · refine ⟨hne, ?_, [], x :: ds, rfl, hshown hne, rfl⟩
        by_cases hclear : x = .clearScreen
        · subst hclear
          exact .inr (.inr ⟨_, rfl⟩)
        · exact .inl (by simp [he, hclear])
      · cases before' with
        | nil => cases hrest
        | cons p before' =>
          rw [List.cons_append, List.cons.injEq] at hrest
          obtain ⟨rfl, hrest⟩ := hrest
          obtain ⟨hne, hends, front, back, rfl, hclosed, hkept⟩ := ih (by simp) hrest
          refine ⟨hne, hends, x :: front, back, rfl, ?_, ?_⟩
          · rw [lasting_cons hx]
            exact hclosed
          · rw [List.filterMap_append, filterMap_kept?_ofMarks, List.nil_append,
              filterMap_kept?_cons, hkept, lasting_cons hx]
            rfl
    | false =>
      have hcons (front : List Drawing) : lasting (x :: front) = lasting front :=
        lasting_cons_of_not hx
      cases x with
      | frame mark =>
        obtain ⟨hne, hends, front, back, rfl, hclosed, hkept⟩ := ih (by
          split
          · exact hshown
          · next ho => exact fun _ => by simpa using ho) h
        exact ⟨hne, hends, .frame mark :: front, back, rfl, hcons front ▸ hclosed,
          hcons front ▸ hkept⟩
      | clearThinking =>
        rw [parts] at h
        rcases ofMarks_append_eq h with ⟨rfl, rfl, hne, rfl, rfl⟩ | ⟨before', rfl, hrest⟩
        · exact ⟨hne, .inl rfl, [], .clearThinking :: ds, rfl, hshown hne, rfl⟩
        · obtain ⟨hne, hends, front, back, rfl, hclosed, hkept⟩ := ih (by simp) hrest
          refine ⟨hne, hends, .clearThinking :: front, back, rfl, hcons front ▸ hclosed, ?_⟩
          rw [List.filterMap_append, filterMap_kept?_ofMarks, List.nil_append, hcons]
          exact hkept
      | _ => cases hx

/-- Where no reply is open the line is empty, if text was drawn in replies only. -/
theorem beginsLine_output (hlasting : ∀ x ∈ ds, x.isLasting = true) (htext : TextInReplies ds)
    (hclosed : replyOpen ds = false) : BeginsLine (d.output ds) := by
  rcases List.eq_nil_or_concat ds with rfl | ⟨front, x, rfl⟩
  · exact .inl rfl
  · rw [List.concat_eq_append] at hlasting htext hclosed ⊢
    have hlast : d.output (front ++ [x]) = d.output front ++ ((d.after front).draw x).2 := by
      rw [output_append, output_cons]
      simp [output, texts]
    rw [hlast]
    rw [replyOpen_concat] at hclosed
    cases x with
    | frame | clearThinking => cases hlasting _ (List.mem_append_right _ List.mem_cons_self)
    | beginReply => cases hclosed
    | replyText text => simp [opens?, htext front text [] rfl] at hclosed
    | clearScreen => exact .inr (.inr ⟨_, rfl⟩)
    | _ => exact .inr (.inl ⟨_, (String.append_assoc ..).symm⟩)

theorem kept_texts {before : List Part} (h : before.filterMap Part.kept? = ds.zip (d.texts ds)) :
    String.join ((before.filterMap Part.kept?).map (·.2)) = d.output ds := by
  have hlength (d : Display) : (d.texts ds).length ≤ ds.length := by
    clear h
    induction ds generalizing d with
    | nil => exact Nat.le_refl 0
    | cons x ds ih => exact Nat.succ_le_succ (ih _)
  rw [h, output, List.map_snd_zip (hlength d)]

/-- On a display with colors frames come in groups. Without them the output is that of the lasting
drawings alone. A group has at least one frame, and it is erased at once, by the clearing of the
screen that comes next, or not at all if nothing comes; it stands in no open reply, and at the
beginning of a line if text is drawn in replies only. A display without colors writes nothing for
frames and for their erasure. -/
theorem frames_in_groups (ds : List Drawing) :
    (∃ ps : List Part,
      Display.output {} ds = String.join (ps.map Part.text) ∧
      ps.filterMap Part.kept? = (lasting ds).zip (Display.texts {} (lasting ds)) ∧
      (ps.flatMap Part.marks).Sublist (ds.filterMap mark?) ∧
      ∀ before marks erased after, ps = before ++ .group marks erased :: after →
        marks ≠ [] ∧
        (erased = true ∨ after = [] ∨ ∃ rest, after = .kept .clearScreen eraseScreen :: rest) ∧
        (∃ front back, ds = front ++ back ∧
          before.filterMap Part.kept? = (lasting front).zip (Display.texts {} (lasting front)) ∧
          replyOpen front = false) ∧
        (TextInReplies ds →
          BeginsLine (String.join ((before.filterMap Part.kept?).map (·.2))))) ∧
    ∀ x : Drawing, x.isLasting = false → ((plain.after ds).draw x).2 = "" := by
  constructor
  · refine ⟨parts {} [] ds, ?_, filterMap_kept?_parts {} [] ds, flatMap_marks_parts {} [] ds, ?_⟩
    · rw [join_parts {} [] ds rfl rfl (by simp)]
      exact (String.empty_append).symm
    · intro before marks erased after h
      obtain ⟨hne, hends, front, back, rfl, hclosed, hkept⟩ := parts_eq_append (by simp) h
      rw [inReply_after] at hclosed
      have hopen : replyOpen (lasting front) = false := hclosed
      refine ⟨hne, hends, ⟨front, back, rfl, hkept, ?_⟩, fun htext => ?_⟩
      · rw [← replyOpen_lasting]
        exact hopen
      · rw [kept_texts hkept]
        refine beginsLine_output (fun x hx => ?_) htext.left.lasting hopen
        exact (List.mem_filter.mp hx).2
  · intro x hx
    rw [(isPlain_after isPlain_plain ds).draw_of_not_isLasting hx]

/-- A frame that is erased by what comes next, two that the indicator erases itself, and one that
goes with the screen. -/
theorem frames_in_groups_of_turn :
    let ds : List Drawing := [.frame "⠋", .info "Mode: streaming", .frame "⠋", .frame "⠙",
      .clearThinking, .beginReply "Assistant", .frame "⠹", .replyText "Hel", .finishReply,
      .frame "⠸", .clearScreen]
    TextInReplies ds ∧ ∃ ps : List Part, Display.output {} ds = String.join (ps.map Part.text) ∧
      ∀ before marks erased after, ps = before ++ .group marks erased :: after →
        BeginsLine (String.join ((before.filterMap Part.kept?).map (·.2))) := by
  intro ds
  have htext : TextInReplies ds := by
    intro before text after he
    simp [ds, List.cons_eq_append_iff] at he
    obtain ⟨rfl, -⟩ := he
    rfl
  obtain ⟨ps, hout, -, -, hgroups⟩ := (frames_in_groups ds).1
  exact ⟨htext, ps, hout, fun before marks erased after h =>
    (hgroups before marks erased after h).2.2.2 htext⟩

end Display

end Parley
