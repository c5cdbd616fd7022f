import Parley.Display
import Mathlib.Tactic.Common

/-! # Plain displays

A display without colors writes nothing for the thinking indicator, so that what it writes is what
the other drawings write. A reply looks the same however it was cut into pieces.
-/

namespace Parley

namespace Drawing

def isLasting : Drawing → Bool
  | .frame _ | .clearThinking => false
  | _ => true

def lasting (ds : List Drawing) : List Drawing :=
  ds.filter isLasting

def replyText? : Drawing → Option String
  | .replyText text => some text
  | _ => none

def replied (ds : List Drawing) : String :=
  String.join (ds.filterMap replyText?)

/-- A reply that is still shown, in pieces. Nothing is shown before its first piece. -/
def ofPieces (label : String) (pieces : List String) : List Drawing :=
  if pieces = [] then [] else .beginReply label :: pieces.map .replyText

variable {ds es : List Drawing} {x : Drawing} {label text : String} {pieces : List String}

theorem lasting_cons (hx : x.isLasting = true) : lasting (x :: ds) = x :: lasting ds :=
  List.filter_cons_of_pos hx

theorem lasting_cons_of_not (hx : x.isLasting = false) : lasting (x :: ds) = lasting ds :=
  List.filter_cons_of_neg (by simp [hx])

@[simp] theorem lasting_append : lasting (ds ++ es) = lasting ds ++ lasting es :=
  List.filter_append ..

/-- A reply that is shown to its end. Nothing is shown of one without pieces. -/
def ofReply (label : String) (pieces : List String) : List Drawing :=
  if pieces = [] then [] else .beginReply label :: pieces.map .replyText ++ [.finishReply]

theorem ofReply_eq : ofReply label pieces =
    ofPieces label pieces ++ if pieces = [] then [] else [.finishReply] := by
  cases pieces <;> rfl

theorem ofPieces_concat : ofPieces label (pieces ++ [text]) =
    ofPieces label pieces ++
      ((if pieces = [] then [.beginReply label] else []) ++ [.replyText text]) := by
  cases pieces <;> simp [ofPieces]

end Drawing

namespace Display

open Drawing

variable {d : Display} {ds es : List Drawing} {label : String}

theorem after_append (d : Display) (ds es : List Drawing) :
    d.after (ds ++ es) = (d.after ds).after es := by
  induction ds generalizing d with
  | nil => rfl
  | cons x ds ih => exact ih _

theorem output_cons (d : Display) (x : Drawing) (ds : List Drawing) :
    d.output (x :: ds) = (d.draw x).2 ++ (d.draw x).1.output ds := by
  rw [output, texts, String.join_cons]
  rfl

theorem output_append (d : Display) (ds es : List Drawing) :
    d.output (ds ++ es) = d.output ds ++ (d.after ds).output es := by
  induction ds generalizing d with
  | nil =>
    rw [List.nil_append]
    exact (String.empty_append).symm
  | cons x ds ih => rw [List.cons_append, output_cons, output_cons, ih, String.append_assoc]; rfl

/-- A display that shows neither styles nor frames. -/
structure IsPlain (d : Display) : Prop where
  colored : d.colored = false
  frameShowing : d.frameShowing = false

theorem IsPlain.draw (h : d.IsPlain) (x : Drawing) : (d.draw x).1.IsPlain := by
  obtain ⟨hc, hf⟩ := h
  cases x with
  | frame =>
    simp only [Display.draw, hc, Bool.not_false, Bool.or_true, if_true]
    exact ⟨hc, hf⟩
  | _ => exact ⟨hc, rfl⟩

theorem isPlain_after (h : d.IsPlain) (ds : List Drawing) : (d.after ds).IsPlain := by
  induction ds generalizing d with
  | nil => exact h
  | cons x ds ih => exact ih (h.draw x)

theorem IsPlain.draw_of_not_isLasting (h : d.IsPlain) {x : Drawing} (hx : x.isLasting = false) :
    d.draw x = (d, "") := by
  obtain ⟨hc, hf⟩ := h
  cases x with
  | frame => simp [Display.draw, hc]
  | clearThinking =>
    obtain ⟨colored, inReply, frameShowing⟩ := d
    obtain rfl : frameShowing = false := hf
    rfl
  | _ => cases hx

theorem IsPlain.lasting (h : d.IsPlain) (ds : List Drawing) :
    d.output (Drawing.lasting ds) = d.output ds ∧ d.after (Drawing.lasting ds) = d.after ds := by
  induction ds generalizing d with
  | nil => exact ⟨rfl, rfl⟩
  | cons x ds ih =>
    cases hx : x.isLasting with
    | true =>
      obtain ⟨ho, ha⟩ := ih (h.draw x)
      rw [lasting_cons hx, output_cons, output_cons, ho]
      exact ⟨rfl, ha⟩
    | false =>
      have hdraw := h.draw_of_not_isLasting hx
      rw [lasting_cons_of_not hx, output_cons, after, hdraw, String.empty_append]
      exact ih h

def replyLine (label text : String) : String :=
  label ++ ": " ++ text ++ "\n"

theorem after_map_replyText (d : Display) (hf : d.frameShowing = false) (pieces : List String) :
    d.after (pieces.map .replyText) = d ∧
      d.output (pieces.map .replyText) = String.join pieces := by
  have hdraw (text : String) : d.draw (.replyText text) = (d, text) := by
    obtain ⟨colored, inReply, frameShowing⟩ := d
    obtain rfl : frameShowing = false := hf
    simp [Display.draw, withoutFrame, erasure]
  induction pieces with
  | nil => exact ⟨rfl, rfl⟩
  | cons text pieces ih =>
    rw [List.map_cons, output_cons, after, hdraw, String.join_cons, ih.2]
    exact ⟨ih.1, rfl⟩

/-- A display without colors on which nothing stands that has to be erased or broken off. -/
def plain : Display :=
  { colored := false }

theorem isPlain_plain : plain.IsPlain :=
  ⟨rfl, rfl⟩

/-- A reply is a line, in however many pieces it comes. -/
theorem output_ofReply (label : String) {pieces : List String} (h : String.join pieces ≠ "") :
    plain.after (ofReply label pieces) = plain ∧
      plain.output (ofReply label pieces) = replyLine label (String.join pieces) := by
  have hne : pieces ≠ [] := by
    rintro rfl
    exact h rfl
  obtain ⟨hafter, houtput⟩ :=
    after_map_replyText { colored := false, inReply := true } rfl pieces
  rw [ofReply, if_neg hne, List.cons_append]
  constructor
  · change Display.after { colored := false, inReply := true } (_ ++ [Drawing.finishReply]) = _
    rw [after_append, hafter]
    rfl
  · rw [output_cons, output_append]
    change _ ++ (Display.output { colored := false, inReply := true } _ ++
      (Display.after { colored := false, inReply := true } _).output _) = _
    rw [hafter, houtput]
    simp [replyLine, Display.draw, plain, erasure, replyLabel, output, texts, String.append_assoc]

end Display

end Parley
