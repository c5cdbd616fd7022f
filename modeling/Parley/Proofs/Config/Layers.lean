import Mathlib.Tactic.Common
import Parley.Config.File

/-! # What a configuration is made of

Each setting comes from what the user asks for, else from the configuration file, else from what
holds by default. The outcome must be valid, and so must the file over the defaults: a file that
sets the number of tokens to zero is refused even if the user asks for another number.
-/

namespace Parley.Config

/-- What has to be positive is positive. -/
def Valid (c : Config) : Prop :=
  0 < c.maxTokens ∧ 0 < c.streamCapacity ∧ 0 < c.indicatorInterval

instance (c : Config) : Decidable c.Valid :=
  inferInstanceAs (Decidable (_ ∧ _ ∧ _))

/-- The setting is zero, and those before it in the order of checking are not. -/
def FirstFault (c : Config) (s : Setting) : Prop :=
  ∃ before after, c.checked = before ++ (s, 0) :: after ∧ ∀ e ∈ before, 0 < e.2

def switched {α : Type} (on : Bool) (value : α) : Option α :=
  if on then some value else none

/-- The configuration in which each setting is what the user asks for, else what the file says, else
what holds by default. -/
def layered (file : File) (a : Arguments) : Config :=
  let base : Config := {}
  { displayName := (a.name <|> file.displayName).getD base.displayName
    assistantName := file.assistantName.getD base.assistantName
    streaming := (switched a.noStream false <|> file.streaming).getD base.streaming
    model := (a.model <|> file.model).getD base.model
    systemPrompt := a.system <|> file.systemPrompt <|> base.systemPrompt
    maxTokens := (a.maxTokens <|> file.maxTokens).getD base.maxTokens
    colored := (switched a.noColor false <|> file.color).getD base.colored
    context :=
      (switched a.fullContext ContextPolicy.fullTranscript <|> file.context).getD base.context
    partialStream :=
      (switched a.keepPartial PartialPolicy.persist <|> file.partialStream).getD base.partialStream
    streamCapacity := file.streamCapacity.getD base.streamCapacity
    indicatorInterval := file.indicatorInterval.getD base.indicatorInterval
    baseUrl := file.baseUrl <|> base.baseUrl
    requestTimeout := file.requestTimeout.getD base.requestTimeout }

variable {c d : Config} {s : Setting} {file : File} {a : Arguments}
  {files : String → Option (List UInt8)}

theorem getD_orElse {α : Type} (upper lower : Option α) (value : α) :
    (upper <|> lower).getD value = upper.getD (lower.getD value) := by
  cases upper <;> rfl

theorem getD_switched {α : Type} (on : Bool) (value other : α) :
    (switched on value).getD other = if on then value else other := by
  cases on <;> rfl

theorem layer_file (file : File) : file.layer {} = layered file {} :=
  rfl

theorem layer_layered (a : Arguments) (file : File) :
    a.layer (layered file {}) = layered file a := by
  have hoff (on b : Bool) : (b && !on) = if on then false else b := by cases on <;> simp
  simp only [Arguments.layer, layered, getD_orElse, getD_switched, hoff]
  rfl

theorem fault?_eq_some_iff : c.fault? = some s ↔ c.FirstFault s := by
  rw [fault?, Option.map_eq_some_iff]
  constructor
  · rintro ⟨⟨s', n⟩, hfind, rfl⟩
    obtain ⟨hzero, before, after, heq, hbefore⟩ := List.find?_eq_some_iff_append.mp hfind
    obtain rfl : n = 0 := by simpa using hzero
    refine ⟨before, after, heq, ?_⟩
    intro e he
    simpa [Nat.pos_iff_ne_zero] using hbefore e he
  · rintro ⟨before, after, heq, hbefore⟩
    refine ⟨(s, 0), List.find?_eq_some_iff_append.mpr ⟨rfl, before, after, heq, ?_⟩, rfl⟩
    intro e he
    simpa [Nat.pos_iff_ne_zero] using hbefore e he

theorem validate_of_valid (h : c.Valid) : c.validate = .ok c := by
  rw [validate, fault?_eq_none_iff.mpr h]

theorem validate_of_firstFault (h : c.FirstFault s) : c.validate = .error s.notPositive := by
  rw [validate, fault?_eq_some_iff.mpr h]

theorem not_valid_iff : ¬ c.Valid ↔ ∃ s, c.FirstFault s := by
  rw [Valid, ← fault?_eq_none_iff, ← ne_eq, Option.ne_none_iff_exists']
  exact exists_congr fun _ => fault?_eq_some_iff

theorem resolve_eq (h : File.asked files a = .ok file) :
    resolve files a = (layered file {}).validate.bind fun c => (a.layer c).validate := by
  rw [resolve, h, ← layer_file]
  rfl

theorem resolve_of_valid (h : File.asked files a = .ok file) (hfile : (layered file {}).Valid) :
    resolve files a = (layered file a).validate := by
  rw [resolve_eq h, validate_of_valid hfile]
  exact congrArg validate (layer_layered a file)

theorem resolve_of_firstFault (h : File.asked files a = .ok file)
    (hfault : (layered file {}).FirstFault s) : resolve files a = .error s.notPositive := by
  rw [resolve_eq h, validate_of_firstFault hfault]
  rfl

/-- The user can ask for another number of tokens, but not for another room or another interval. -/
theorem valid_file_iff (hvalid : (layered file a).Valid) :
    (layered file {}).Valid ↔ file.maxTokens ≠ some 0 := by
  obtain ⟨-, hroom, hinterval⟩ := hvalid
  have htokens : 0 < (layered file {}).maxTokens ↔ file.maxTokens ≠ some 0 := by
    change 0 < file.maxTokens.getD 4096 ↔ _
    cases file.maxTokens with
    | none => simp
    | some n => simp [Nat.pos_iff_ne_zero]
  constructor
  · rintro ⟨hpos, -, -⟩
    exact htokens.mp hpos
  · intro hne
    exact ⟨htokens.mpr hne, hroom, hinterval⟩

/-- With a configuration file that can be read, or without one, the settings of the user, of the file
and of the defaults make a configuration just when it is valid and the file over the defaults is
valid too. It is refused otherwise, with the name of the first setting of the file over the defaults
that is not positive, or of the outcome if there is none. If the outcome is valid it is refused only
because of a file that sets the number of tokens to zero. -/
theorem resolve_layers {files : String → Option (List UInt8)} {a : Arguments} {file : File}
    (h : File.asked files a = .ok file) :
    (∀ c, resolve files a = .ok c ↔
      (layered file {}).Valid ∧ (layered file a).Valid ∧ c = layered file a) ∧
    (¬ ((layered file {}).Valid ∧ (layered file a).Valid) →
      ∃ s, resolve files a = .error s.notPositive ∧
        ((layered file {}).FirstFault s ∨
          (layered file {}).Valid ∧ (layered file a).FirstFault s)) ∧
    ((layered file a).Valid → ((layered file {}).Valid ↔ file.maxTokens ≠ some 0)) := by
  refine ⟨?_, ?_, valid_file_iff⟩
  · intro c
    constructor
    · intro hc
      by_cases hfile : (layered file {}).Valid
      · rw [resolve_of_valid h hfile] at hc
        obtain ⟨hnone, rfl⟩ := validate_eq_ok_iff.mp hc
        exact ⟨hfile, fault?_eq_none_iff.mp hnone, rfl⟩
      · obtain ⟨s, hfault⟩ := not_valid_iff.mp hfile
        rw [resolve_of_firstFault h hfault] at hc
        cases hc
    · rintro ⟨hfile, hvalid, rfl⟩
      rw [resolve_of_valid h hfile, validate_of_valid hvalid]
  · intro hnot
    by_cases hfile : (layered file {}).Valid
    · have hinvalid : ¬ (layered file a).Valid := by
        intro hvalid
        exact hnot ⟨hfile, hvalid⟩
      obtain ⟨s, hfault⟩ := not_valid_iff.mp hinvalid
      refine ⟨s, ?_, .inr ⟨hfile, hfault⟩⟩
      rw [resolve_of_valid h hfile, validate_of_firstFault hfault]
    · obtain ⟨s, hfault⟩ := not_valid_iff.mp hfile
      exact ⟨s, resolve_of_firstFault h hfault, .inl hfault⟩

/-- A file in which two settings stand, one of which the user overrides. -/
theorem resolve_layers_override :
    let text := "model: from-file\nmax_tokens: 7\n"
    let files (path : String) : Option (List UInt8) :=
      if path = "config.yaml" then some (Utf8.encode text.toList) else none
    let a : Arguments := { config := some "config.yaml", maxTokens := some 5, noStream := true }
    resolve files a = .ok { model := "from-file", maxTokens := 5, streaming := false } := by
  intro text files a
  have h : File.asked files a = .ok { model := some "from-file", maxTokens := some 7 } := by
    decide +kernel
  exact ((resolve_layers h).1 _).mpr ⟨by decide, by decide, rfl⟩

/-- A file that sets the number of tokens to zero is refused although the outcome would be valid. -/
theorem resolve_refuses_file :
    let files (path : String) : Option (List UInt8) :=
      if path = "config.yaml" then some (Utf8.encode "max_tokens: 0\n".toList) else none
    let a : Arguments := { config := some "config.yaml", maxTokens := some 5 }
    ∃ file, File.asked files a = .ok file ∧ (layered file a).Valid ∧
      resolve files a = .error Setting.maxTokens.notPositive := by
  intro files a
  exact ⟨{ maxTokens := some 0 }, by decide +kernel, by decide, by decide +kernel⟩

end Parley.Config
