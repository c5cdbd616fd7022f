import Parley.Provider.Pump
import Parley.Provider.Response
import Parley.Proofs.Increments
import Parley.Proofs.Json.Spelled
import Parley.Proofs.Provider.Frames

/-! # Fragments of a reply

A provider tells the fragments of a reply in two ways: as the text blocks of a document, or as the
text deltas of an event stream that ends with a stop. Either way they are read back, whatever other
blocks or events stand between them and however their texts are escaped.
-/

namespace Parley.Provider

open Json (Written Padded Spells)

variable {data : List Char} {d : Delta} {f : List Char × List Char} {j : Json} {t : String}
  {ts : List String} {fs : List (List Char × List Char)} {js : List Json} {b : Response.Block}

/-- The data of an event on one line: an object with a change. -/
def HoldsDelta (data : List Char) (d : Delta) : Prop :=
  ∃ j change, Written j data ∧ '\n' ∉ data ∧ '\r' ∉ data ∧ j.At "delta" [change] ∧
    change.OptionalText "type" d.kind ∧ change.OptionalText "text" d.text ∧
    change.OptionalText "stop_reason" d.stopReason

/-- Events that add nothing to the reply: those whose data nobody reads, the changes to the whole
message, and the changes to its content that are no text. -/
inductive Ignorable : List Char × List Char → Prop where

  | unread {name data : List Char} : IsLine name → IsLine data →
      String.ofList name ∉ ["content_block_delta", "message_delta", "message_stop", "error"] →
      Ignorable (name, data)

  | messageDelta {data : List Char} {d : Delta} : HoldsDelta data d →
      Ignorable ("message_delta".toList, data)

  | otherDelta {data : List Char} {d : Delta} : HoldsDelta data d → d.kind ≠ some "text_delta" →
      Ignorable ("content_block_delta".toList, data)

/-- The frames of a stream that carries these fragments, each in a text delta, and then stops. -/
inductive Carries : List String → List (List Char × List Char) → Prop where

  | stop {data : List Char} : IsLine data → Carries [] [("message_stop".toList, data)]

  | skip {ts : List String} {f : List Char × List Char} {fs : List (List Char × List Char)} :
      Ignorable f → Carries ts fs → Carries ts (f :: fs)

  | text {t : String} {ts : List String} {data : List Char} {d : Delta}
      {fs : List (List Char × List Char)} : HoldsDelta data d → d.kind = some "text_delta" →
      d.text = some t → Carries ts fs →
      Carries (t :: ts) (("content_block_delta".toList, data) :: fs)

theorem HoldsDelta.isLine (h : HoldsDelta data d) : IsLine data := by
  obtain ⟨j, change, hwritten, hnewline, hreturn, -⟩ := h
  exact ⟨hnewline, hreturn, hwritten.trim_eq⟩

theorem ofJson?_eq (hkind : j.OptionalText "type" d.kind) (htext : j.OptionalText "text" d.text)
    (hstop : j.OptionalText "stop_reason" d.stopReason) : Delta.ofJson? j = some d := by
  obtain ⟨v₁, hat₁, hv₁⟩ := Json.exists_optional hkind
  obtain ⟨v₂, hat₂, hv₂⟩ := Json.exists_optional htext
  obtain ⟨v₃, hat₃, hv₃⟩ := Json.exists_optional hstop
  have hrecord : j.record? [{ name := "type", mayTrail := true },
      { name := "text", mayTrail := true }, { name := "stop_reason", mayTrail := true }] =
      some [v₁, v₂, v₃] :=
    Json.record?_eq (by simp) (.cons hat₁ (.cons hat₂ (.cons hat₃ .nil)))
  simp [Delta.ofJson?, hrecord, hv₁, hv₂, hv₃]

theorem HoldsDelta.ofData?_eq (h : HoldsDelta data d) : Delta.ofData? data = some d := by
  obtain ⟨j, change, hwritten, -, -, hat, hkind, htext, hstop⟩ := h
  have hrecord : j.record? [{ name := "delta" }] = some [some change] :=
    Json.record?_eq (by simp) (.cons hat .nil)
  simp [Delta.ofData?, Json.ofSymbols?_of_written hwritten, hrecord, Json.required?,
    ofJson?_eq hkind htext hstop]

theorem isLine_eventName {name : String}
    (h : name ∈ ["content_block_delta", "message_delta", "message_stop"]) : IsLine name.toList := by
  simp only [List.mem_cons, List.not_mem_nil, or_false] at h
  rcases h with rfl | rfl | rfl <;> exact ⟨by decide, by decide, by decide⟩

theorem Ignorable.isLine (h : Ignorable f) : IsLine f.1 ∧ IsLine f.2 := by
  cases h with
  | unread hname hdata => exact ⟨hname, hdata⟩
  | messageDelta hholds | otherDelta hholds => exact ⟨isLine_eventName (by simp), hholds.isLine⟩

theorem Carries.isLine (h : Carries ts fs) : ∀ f ∈ fs, IsLine f.1 ∧ IsLine f.2 := by
  induction h with
  | stop hdata => exact List.forall_mem_singleton.mpr ⟨isLine_eventName (by simp), hdata⟩
  | skip hignorable _ ih => exact List.forall_mem_cons.mpr ⟨hignorable.isLine, ih⟩
  | text hholds _ _ _ ih =>
    exact List.forall_mem_cons.mpr ⟨⟨isLine_eventName (by simp), hholds.isLine⟩, ih⟩

theorem ofFields_contentDelta (h : HoldsDelta data d) :
    Event.ofFields "content_block_delta".toList data = .ok d.contentEvent := by
  simp [Event.ofFields, h.ofData?_eq]

theorem Ignorable.increment?_eq (h : Ignorable f) :
    Pump.increment? (Event.ofFields f.1 f.2) = none := by
  cases h with
  | unread _ _ hname =>
    simp only [Event.ofFields]
    split <;> simp_all [Pump.increment?]
  | messageDelta hholds =>
    simp [Event.ofFields, hholds.ofData?_eq, Pump.increment?]
  | @otherDelta data d hholds hkind =>
    rw [ofFields_contentDelta hholds]
    unfold Delta.contentEvent
    split
    · next hd _ => exact absurd hd hkind
    · rfl

theorem Carries.increments_eq (h : Carries ts fs) :
    Pump.increments (fs.map fun f => Event.ofFields f.1 f.2) = ts.map .ofText ++ [.last ""] := by
  induction h with
  | stop =>
    simp [Pump.increments, Event.ofFields, Pump.increment?,
      Increment.isTerminal, Increment.last]
  | skip hignorable _ ih =>
    rw [List.map_cons, Pump.increments, hignorable.increment?_eq]
    exact ih
  | @text t ts data d fs hholds hkind htext _ ih =>
    have hevent : d.contentEvent = .textDelta t := by simp [Delta.contentEvent, hkind, htext]
    rw [List.map_cons, Pump.increments, ofFields_contentDelta hholds, hevent]
    have hgoes : (Increment.ofText t).isTerminal = false := rfl
    simp [Pump.increment?, hgoes, ih]

def HoldsBlock (j : Json) (b : Response.Block) : Prop :=
  ∃ ps, j.At "type" [.string ps] ∧ Spells ps b.kind.toList ∧ j.OptionalText "text" b.text

/-- The blocks of a document that carries these fragments, each in a text block. -/
inductive Contains : List String → List Json → Prop where

  | nil : Contains [] []

  | skip {ts : List String} {j : Json} {b : Response.Block} {js : List Json} : HoldsBlock j b →
      b.kind ≠ "text" → Contains ts js → Contains ts (j :: js)

  | text {t : String} {ts : List String} {j : Json} {b : Response.Block} {js : List Json} :
      HoldsBlock j b → b.kind = "text" → b.text = some t → Contains ts js →
      Contains (t :: ts) (j :: js)

/-- A response with a document that carries these fragments. -/
def Replies (ts : List String) (r : Response) : Prop :=
  ∃ j cs js, r.body? = some (Utf8.encode cs) ∧ Padded j cs ∧ j.At "content" [.array js] ∧
    Contains ts js

theorem HoldsBlock.ofJson?_eq (h : HoldsBlock j b) : Response.Block.ofJson? j = some b := by
  obtain ⟨ps, hat, hspells, htext⟩ := h
  obtain ⟨v, hatText, hv⟩ := Json.exists_optional htext
  have hrecord : j.record? [{ name := "type" }, { name := "text", mayTrail := true }] =
      some [some (.string ps), v] :=
    Json.record?_eq (by simp) (.cons hat (.cons hatText .nil))
  simp [Response.Block.ofJson?, hrecord, Json.required?, Json.text?, Json.textOf?_of_spells hspells,
    hv]

theorem Contains.exists_blocks (h : Contains ts js) :
    ∃ blocks, js.mapM Response.Block.ofJson? = some blocks ∧
      (blocks.filter (·.kind == "text")).filterMap (·.text) = ts := by
  induction h with
  | nil => exact ⟨[], rfl, rfl⟩
  | @skip ts j b js hholds hkind _ ih =>
    obtain ⟨blocks, hblocks, htexts⟩ := ih
    refine ⟨b :: blocks, ?_, ?_⟩
    · rw [List.mapM_cons, hholds.ofJson?_eq, hblocks]
      rfl
    · simpa [hkind] using htexts
  | @text t ts j b js hholds hkind htext _ ih =>
    obtain ⟨blocks, hblocks, htexts⟩ := ih
    refine ⟨b :: blocks, ?_, ?_⟩
    · rw [List.mapM_cons, hholds.ofJson?_eq, hblocks]
      rfl
    · simp [hkind, htext, htexts]

theorem Replies.reply_eq {r : Response} (h : Replies ts r) : r.reply = .ok (String.join ts) := by
  obtain ⟨j, cs, js, hbody, hpadded, hat, hcontains⟩ := h
  obtain ⟨blocks, hblocks, htexts⟩ := hcontains.exists_blocks
  have hrecord : j.record? [{ name := "content", mayTrail := true }] = some [some (.array js)] :=
    Json.record?_eq (by simp) (.cons hat .nil)
  have hcontent : Response.content? (Utf8.encode cs) = some blocks := by
    simp [Response.content?, Json.ofBytes?, Utf8.symbols_encode, Json.ofSymbols?_of_padded hpadded,
      hrecord, Response.blocks?, hblocks]
  rw [Response.reply, hbody, Option.bind_some, hcontent]
  simp [Response.textOf, htexts]

def memberText (name : String) (cs : List Char) : List Char :=
  '"' :: (name.toList ++ '"' :: ':' :: cs)

def typed (kind : String) (ps : List Json.Piece) : Json :=
  .ofMembers [("type", .ofText kind), ("text", .string ps)]

def typedText (kind : String) (cs : List Char) : List Char :=
  '{' :: (memberText "type" ('"' :: (kind.toList ++ ['"'])) ++
    ',' :: (memberText "text" ('"' :: (cs ++ ['"'])) ++ ['}']))

def deltaText (kind : String) (cs : List Char) : List Char :=
  '{' :: (memberText "delta" (typedText kind cs) ++ ['}'])

def documentText (items : List Char) : List Char :=
  '{' :: (memberText "content" ('[' :: (items ++ [']'])) ++ ['}'])

variable {kind : String} {cs : List Char} {ps : List Json.Piece}

theorem written_typed (kind : String) (hkind : Json.IsPlain kind.toList) (h : Json.Quoted ps cs) :
    Written (typed kind ps) (typedText kind cs) := by
  have hwritten := Written.members (.cons (Json.named_piecesOf "type" (by decide))
    (Json.written_ofText kind hkind).padded
    (.last (Json.named_piecesOf "text" (by decide)) (Written.string h).padded))
  simpa [typed, Json.ofMembers, typedText, memberText] using hwritten

theorem typed_kind (kind : String) (ps : List Json.Piece) :
    (typed kind ps).At "type" [.ofText kind] :=
  Json.at_ofMembers [("type", .ofText kind), ("text", .string ps)] "type"

theorem typed_text (kind : String) (h : Spells ps t.toList) :
    (typed kind ps).OptionalText "text" (some t) :=
  ⟨ps, Json.at_ofMembers [("type", .ofText kind), ("text", .string ps)] "text", h⟩

theorem holdsDelta_deltaText (kind : String) (hkind : Json.IsPlain kind.toList)
    (hn : '\n' ∉ kind.toList) (hr : '\r' ∉ kind.toList) (h : Json.SpelledAs t.toList cs ps) :
    HoldsDelta (deltaText kind cs) { kind := some kind, text := some t, stopReason := none } := by
  have hwritten := Written.members (.last (Json.named_piecesOf "delta" (by decide))
    (written_typed kind hkind h.quoted).padded)
  refine ⟨.ofMembers [("delta", typed kind ps)], typed kind ps, ?_, ?_, ?_,
    Json.at_ofMembers [("delta", typed kind ps)] "delta",
    ⟨_, typed_kind kind ps, Json.spells_symbols kind.toList⟩, typed_text kind h.spells,
    .inl (Json.at_ofMembers [("type", .ofText kind), ("text", .string ps)] "stop_reason")⟩
  · simpa [Json.ofMembers, deltaText, memberText] using hwritten
  · simpa [deltaText, typedText, memberText, h.newline] using hn
  · simpa [deltaText, typedText, memberText, h.carriageReturn] using hr

/-- Whatever the fragments, there is a stream that carries them. -/
theorem exists_carries (ts : List String) : ∃ fs, Carries ts fs := by
  induction ts with
  | nil =>
    have hline : IsLine ['{', '}'] := ⟨by decide, by decide, by decide⟩
    exact ⟨_, .stop hline⟩
  | cons t ts ih =>
    obtain ⟨fs, hcarries⟩ := ih
    obtain ⟨cs, ps, h⟩ := Json.exists_spelledAs t.toList
    have hholds := holdsDelta_deltaText "text_delta" (by decide) (by decide) (by decide) h
    exact ⟨_, .text hholds rfl rfl hcarries⟩

theorem holdsBlock_typed (kind : String) (h : Spells ps t.toList) :
    HoldsBlock (typed kind ps) { kind, text := some t } :=
  ⟨_, typed_kind kind ps, Json.spells_symbols kind.toList, typed_text kind h⟩

theorem exists_contains (t : String) (ts : List String) :
    ∃ js cs, Contains (t :: ts) js ∧ Json.ItemsWritten js cs := by
  induction ts generalizing t with
  | nil =>
    obtain ⟨cs, ps, h⟩ := Json.exists_spelledAs t.toList
    exact ⟨_, _, .text (holdsBlock_typed "text" h.spells) rfl rfl .nil,
      .last (written_typed "text" (by decide) h.quoted).padded⟩
  | cons t' ts ih =>
    obtain ⟨cs, ps, h⟩ := Json.exists_spelledAs t.toList
    obtain ⟨js, rest, hcontains, hitems⟩ := ih t'
    exact ⟨_, _, .text (holdsBlock_typed "text" h.spells) rfl rfl hcontains,
      .cons (written_typed "text" (by decide) h.quoted).padded hitems⟩

theorem replies_documentText {items : List Char} (h : Contains ts js)
    (hitems : Written (.array js) ('[' :: (items ++ [']']))) :
    Replies ts { chunks := [Utf8.encode (documentText items)] } := by
  have hwritten := Written.members (.last (Json.named_piecesOf "content" (by decide)) hitems.padded)
  have hbody (bytes : List UInt8) : Response.body? { chunks := [bytes] } = some bytes := by
    cases bytes <;> simp [Response.body?, Response.breaksOff, Response.pieces, Response.hasBody]
  refine ⟨.ofMembers [("content", .array js)], documentText items, js, hbody _, ?_,
    Json.at_ofMembers [("content", .array js)] "content", h⟩
  exact Written.padded (by simpa [Json.ofMembers, documentText, memberText] using hwritten)

/-- Whatever the fragments, there is a response with them. -/
theorem exists_replies (ts : List String) : ∃ r, Response.isSuccess r = true ∧ Replies ts r := by
  cases ts with
  | nil =>
    have hblank : Json.AllBlank [] := List.forall_mem_nil _
    have hitems : Written (.array []) ('[' :: ([] ++ [']'])) := .noItems hblank
    exact ⟨_, rfl, replies_documentText .nil hitems⟩
  | cons t ts =>
    obtain ⟨js, items, hcontains, hitems⟩ := exists_contains t ts
    exact ⟨_, rfl, replies_documentText hcontains (.items hitems)⟩

end Parley.Provider
