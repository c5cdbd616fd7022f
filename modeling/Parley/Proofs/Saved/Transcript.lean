import Parley.Session
import Parley.Proofs.Json.Pretty
import Parley.Proofs.Saved.Stamps

/-! # Saved transcripts read back

What a session saves is a JSON document. Reading it gives the transcript again: its identifier, the
moment it was opened, and its messages in order, each with its role, its text and its moment.
-/

namespace Parley

namespace Role

theorem ofName?_name : ∀ r : Role, ofName? r.name = some r
  | .user => rfl
  | .assistant => rfl

theorem ofJson?_reread (r : Role) : ofJson? r.toJson.reread = some r := by
  have htext : r.toJson.reread.text? = some r.name := Json.text?_reread_ofText r.name
  have hread : ofJson? r.toJson.reread = r.toJson.reread.text?.bind ofName? := by
    rw [toJson, Json.ofText, Json.reread]
    rfl
  rw [hread, htext, Option.bind_some, ofName?_name]

end Role

namespace Message

theorem hasForm_toJson (m : Message) : m.toJson.HasForm := by
  apply Json.hasForm_ofMembers
  intro field hfield
  simp only [List.mem_cons, List.not_mem_nil, or_false] at hfield
  rcases hfield with rfl | rfl | rfl <;> exact Json.hasForm_ofText _

theorem ofJson?_reread {m : Message} (h : m.generatedAt.Valid) :
    ofJson? m.toJson.reread = some m := by
  have hfields : m.toJson.reread.record?
      [{ name := "role" }, { name := "text" }, { name := "generated_at" }] =
      some [some m.role.toJson.reread, some (Json.ofText m.text).reread,
        some (Json.ofText m.generatedAt.text).reread] := by
    apply Json.record?_eq (by simp)
    refine .cons ?_ (.cons ?_ (.cons ?_ .nil)) <;> exact Json.at_reread_ofMembers _ _
  rw [ofJson?, hfields]
  simp [Json.required?, Role.ofJson?_reread, Json.text?_reread_ofText, Timestamp.parse?_text h]

end Message

namespace Transcript

variable {t : Transcript}

/-- All moments of a transcript are in the years 0 to 9999, on clocks less than a day away from
universal time. -/
structure IsDated (t : Transcript) : Prop where
  createdAt : t.createdAt.Valid
  generatedAt : ∀ m ∈ t.messages, m.generatedAt.Valid

theorem hasForm_toJson (t : Transcript) : t.toJson.HasForm := by
  apply Json.hasForm_ofMembers
  intro field hfield
  simp only [List.mem_cons, List.not_mem_nil, or_false] at hfield
  rcases hfield with rfl | rfl | rfl
  · exact Json.hasForm_ofText _
  · exact Json.hasForm_ofText _
  · apply Json.hasForm_array
    intro j hj
    obtain ⟨m, -, rfl⟩ := List.mem_map.mp hj
    exact m.hasForm_toJson

theorem mapM_ofJson? {ms : List Message} (h : ∀ m ∈ ms, m.generatedAt.Valid) :
    (ms.map fun m => m.toJson.reread).mapM Message.ofJson? = some ms := by
  induction ms with
  | nil => rfl
  | cons m ms ih =>
    rw [List.forall_mem_cons] at h
    rw [List.map_cons, List.mapM_cons, Message.ofJson?_reread h.1, ih h.2]
    rfl

theorem ofJson?_reread (h : t.IsDated) : ofJson? t.toJson.reread = some t := by
  have hmessages : (Json.array (t.messages.map Message.toJson)).reread =
      .array (t.messages.map fun m => m.toJson.reread) := by
    rw [Json.reread_array, List.map_map]
    rfl
  have hfields : t.toJson.reread.record?
      [{ name := "id" }, { name := "created_at" }, { name := "messages" }] =
      some [some (Json.ofText t.id.text).reread, some (Json.ofText t.createdAt.text).reread,
        some (Json.array (t.messages.map fun m => m.toJson.reread))] := by
    rw [← hmessages]
    apply Json.record?_eq (by simp)
    refine .cons ?_ (.cons ?_ (.cons ?_ .nil)) <;> exact Json.at_reread_ofMembers _ _
  rw [ofJson?, hfields]
  simp [Json.required?, Json.text?_reread_ofText, SessionId.parse?_text,
    Timestamp.parse?_text h.createdAt, mapM_ofJson? h.generatedAt]

def ofDocument? (document : String) : Option Transcript :=
  (Json.parse? document).bind ofJson?

theorem ofDocument?_pretty (h : t.IsDated) : ofDocument? t.toJson.pretty = some t := by
  rw [ofDocument?, Json.parse?_pretty t.hasForm_toJson, Option.bind_some, ofJson?_reread h]

end Transcript

namespace Folder

variable {f : Folder} {name other content path : String}

/-- What a file of the folder holds. -/
def content? (f : Folder) (name : String) : Option String :=
  (f.files.find? (·.1 = name)).map Prod.snd

theorem find?_filter (files : List (String × String)) (name other : String) :
    (files.filter (·.1 ≠ name)).find? (·.1 = other) =
      if other = name then none else files.find? (·.1 = other) := by
  split
  · next h =>
    subst h
    simp [List.find?_eq_none]
  · next h =>
    induction files with
    | nil => rfl
    | cons file files ih =>
      by_cases hfile : file.1 = name
      · simp_all [Ne.symm h]
      · by_cases hother : file.1 = other <;> simp_all

theorem content?_put (f : Folder) (name content other : String) :
    (f.put name content).content? other =
      if other = name then some content else f.content? other := by
  rw [content?, put, List.find?_append, find?_filter]
  split
  · next h => simp [h]
  · next h => simp [content?, Ne.symm h]

end Folder

namespace Session

/-- A session that can read its transcript saves it in a file of its folder. -/
theorem save_of_file {s : Session} {t : Transcript} {path name : String}
    (hread : s.transcript.1 = .ok t) (hpath : Folder.resolve path = .file name) :
    (s.save path).events = s.events ++ [.drawn (.success ("Transcript saved to " ++ path))] ∧
      (s.save path).folder = s.folder.put name t.toJson.pretty := by
  have htranscript : s.transcript = (.ok t, s.transcript.2) := by rw [← hread]
  have hsave : s.transcript.2.folder.save path t.toJson.pretty =
      .ok (s.folder.put name t.toJson.pretty) := by
    rw [Folder.save, hpath]
    rfl
  unfold save
  rw [htranscript]
  simp only [hsave]
  exact ⟨rfl, rfl⟩

end Session

/-- Every dated transcript is read back from its document as it was. A session that has it saves this
document in the file that it is told, and touches no other file. -/
theorem Transcript.saved_reads_back {t : Transcript} (h : t.IsDated) :
    ofDocument? t.toJson.pretty = some t ∧
      ∀ (s : Session) (path name : String), s.transcript.1 = .ok t →
        Folder.resolve path = .file name →
        (s.save path).events = s.events ++ [.drawn (.success ("Transcript saved to " ++ path))] ∧
          ((s.save path).folder.content? name).bind ofDocument? = some t ∧
          ∀ other, other ≠ name →
            (s.save path).folder.content? other = s.folder.content? other := by
  have hdocument := ofDocument?_pretty h
  refine ⟨hdocument, fun s path name hread hpath => ?_⟩
  obtain ⟨hevents, hfolder⟩ := Session.save_of_file hread hpath
  refine ⟨hevents, ?_, ?_⟩
  · rw [hfolder, Folder.content?_put, if_pos rfl, Option.bind_some, hdocument]
  · intro other hother
    rw [hfolder, Folder.content?_put, if_neg hother]

/-- A transcript with a leap day of the year 0, places and distances of all kinds, quotes, a
backslash, control characters, a character beyond the first plane and an empty text is saved over a
file of the same name. -/
theorem Transcript.saved_reads_back_escaped :
    let t : Transcript :=
      { id := .ofSerial 0xABCDEF12
        createdAt := ⟨0, 2, 29, 23, 59, 59, 120000000, -1439⟩
        messages :=
          [{ role := .user
             text := "\"C:\\temp\"\n\x01\x7f 😀"
             generatedAt := ⟨9999, 12, 31, 0, 0, 0, 1, 330⟩ },
            { role := .assistant
              text := ""
              generatedAt := ⟨2024, 5, 1, 7, 8, 9, 0, 0⟩ }] }
    let s : Session :=
      { service := { archive := { store := { sessions := [t] }, clock := t.createdAt } }
        id := t.id
        streaming := true
        input := []
        folder := { files := [("a.json", "[]"), ("b.json", "\x7b\x7d")] } }
    t.IsDated ∧ s.transcript.1 = .ok t ∧ Folder.resolve "./a.json" = .file "a.json" ∧
      (s.save "./a.json").events = [.drawn (.success "Transcript saved to ./a.json")] ∧
      ((s.save "./a.json").folder.content? "a.json").bind ofDocument? = some t ∧
      (s.save "./a.json").folder.content? "b.json" = some "\x7b\x7d" := by
  intro t s
  have hdated : t.IsDated := ⟨by decide, by decide⟩
  have hread : s.transcript.1 = .ok t := rfl
  have hpath : Folder.resolve "./a.json" = .file "a.json" := by decide +kernel
  obtain ⟨-, hsave⟩ := saved_reads_back hdated
  obtain ⟨hevents, hsaved, hothers⟩ := hsave s "./a.json" "a.json" hread hpath
  have hother := hothers "b.json" (by decide)
  refine ⟨hdated, hread, hpath, hevents, hsaved, hother.trans ?_⟩
  decide +kernel

end Parley
