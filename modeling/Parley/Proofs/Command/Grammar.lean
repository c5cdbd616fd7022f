import Parley.Command
import Parley.Proofs.Text.Lowercase
import Mathlib.Data.List.TakeWhile

/-! # The grammar of commands

A line is a bare word, or a slash with the word of a command, alone or with a space and an argument.
The words count in any case of their ASCII letters, and nothing beyond ASCII counts for such a
letter. What else begins with a slash is a wrong command, and what does not is a message.
-/

namespace Parley.Command

open Text

/-- A text that is a word up to the case of its ASCII letters. -/
def IsVariant (word : String) (cs : List Char) : Prop :=
  cs.map Char.toLower = word.toList

/-- A slash and a variant of a word, alone or with a space and a rest. -/
inductive Calls (word : String) : List Char → List Char → Prop where

  | alone {w : List Char} : IsVariant word w → Calls word ('/' :: w) []

  | followed {w rest : List Char} : IsVariant word w → Calls word ('/' :: (w ++ ' ' :: rest)) rest

def plainWords : List (String × Command) := [
  ("quit", .exit), ("exit", .exit), ("q", .exit), ("clear", .clear), ("help", .help),
  ("?", .help), ("history", .history), ("stats", .stats), ("status", .stats)]

def settings : List (String × Bool) := [
  ("on", true), ("true", true), ("yes", true), ("off", false), ("false", false), ("no", false)]

def words : List String :=
  plainWords.map Prod.fst ++ ["save", "stream"] ++ settings.map Prod.fst

/-- The command for which a trimmed line stands. -/
inductive Denotes (line : List Char) : Command → Prop where

  | bareExit : IsVariant "exit" line → Denotes line .exit

  | bareClear : IsVariant "clear" line → Denotes line .clear

  | plain {word : String} {command : Command} {rest : List Char} :
      (word, command) ∈ plainWords → Calls word line rest → Denotes line command

  | save {rest : List Char} : Calls "save" line rest → trim rest ≠ [] →
      Denotes line (.save (String.ofList (trim rest)))

  | stream {word : String} {on : Bool} {rest : List Char} : (word, on) ∈ settings →
      IsVariant word (trim rest) → Calls "stream" line rest → Denotes line (.stream on)

variable {word : String} {line cs w rest : List Char} {command : Command}

theorem mem_words_of_plain (h : (word, command) ∈ plainWords) : word ∈ words := by
  have hmem : word ∈ plainWords.map Prod.fst := List.mem_map_of_mem h
  simp [words, hmem]

theorem mem_words_of_setting {on : Bool} (h : (word, on) ∈ settings) : word ∈ words := by
  have hmem : word ∈ settings.map Prod.fst := List.mem_map_of_mem h
  simp [words, hmem]

theorem foldsFromAscii_of_mem (h : word ∈ words) : ∀ d ∈ word.toList, FoldsFromAscii d := by
  have hall : (words.all fun w => w.toList.all fun d => decide (FoldsFromAscii d)) = true := by
    decide +kernel
  simp only [List.all_eq_true, decide_eq_true_eq] at hall
  exact hall word h

theorem space_not_mem (h : word ∈ words) : ' ' ∉ word.toList := by
  revert word
  decide +kernel

theorem lowercase_eq_word_iff (h : word ∈ words) : lowercase cs = word.toList ↔ IsVariant word cs :=
  lowercase_eq_iff (foldsFromAscii_of_mem h)

theorem ofList_lowercase_eq_iff (h : word ∈ words) :
    String.ofList (lowercase cs) = word ↔ IsVariant word cs := by
  rw [← lowercase_eq_word_iff h, ← String.toList_inj, String.toList_ofList]

/-- No character beyond ASCII folds into a letter of a word. -/
theorem isAscii_of_lowercase_eq (h : word ∈ words) (hcs : lowercase cs = word.toList) :
    ∀ c ∈ cs, c.toNat < 0x80 := by
  intro c hc
  have hvariant : cs.map Char.toLower = word.toList := (lowercase_eq_word_iff h).mp hcs
  by_contra hbeyond
  have hmem : c ∈ word.toList := by
    rw [← hvariant, ← toLower_of_not_ascii (Nat.not_lt.mp hbeyond)]
    exact List.mem_map_of_mem hc
  exact hbeyond (foldsFromAscii_of_mem h c hmem).isAscii

theorem eqIgnoringAsciiCase_iff (h : word.toList.map Char.toLower = word.toList) :
    eqIgnoringAsciiCase cs word.toList = true ↔ IsVariant word cs := by
  have hsmall : asciiSmall = Char.toLower := funext asciiSmall_eq_toLower
  rw [eqIgnoringAsciiCase, beq_iff_eq, hsmall, h, IsVariant]

theorem ofTrimmed?_of_exit (h : IsVariant "exit" cs) : ofTrimmed? cs = some .exit := by
  unfold ofTrimmed?
  rw [if_pos ((eqIgnoringAsciiCase_iff (by decide)).mpr h)]

theorem ofTrimmed?_of_clear (h : IsVariant "clear" cs) : ofTrimmed? cs = some .clear := by
  have hexit : ¬ eqIgnoringAsciiCase cs "exit".toList = true := by
    intro he
    have hvariant : IsVariant "exit" cs := (eqIgnoringAsciiCase_iff (by decide)).mp he
    exact absurd (hvariant.symm.trans h) (by decide)
  unfold ofTrimmed?
  rw [if_neg hexit, if_pos ((eqIgnoringAsciiCase_iff (by decide)).mpr h)]

theorem splitAtSpace_of_not_mem (h : ' ' ∉ cs) : splitAtSpace cs = (cs, none) := by
  have hdrop : cs.dropWhile (· != ' ') = [] := by
    rw [List.dropWhile_eq_nil_iff]
    intro c hc
    simpa using fun he : c = ' ' => h (he ▸ hc)
  rw [splitAtSpace, hdrop]

theorem splitAtSpace_append (h : ' ' ∉ w) (rest : List Char) :
    splitAtSpace (w ++ ' ' :: rest) = (w, some rest) := by
  have hw : ∀ c ∈ w, (c != ' ') = true := by
    intro c hc
    simpa using fun he : c = ' ' => h (he ▸ hc)
  rw [splitAtSpace, List.dropWhile_append_of_pos hw, List.takeWhile_append_of_pos hw]
  simp

theorem space_cases (cs : List Char) : ' ' ∉ cs ∨ ∃ w rest, ' ' ∉ w ∧ cs = w ++ ' ' :: rest := by
  by_cases h : ' ' ∈ cs
  · obtain ⟨w, rest, rfl, hw⟩ := List.eq_append_cons_of_mem h
    exact .inr ⟨w, rest, hw, rfl⟩
  · exact .inl h

theorem ofTrimmed?_slash (cs : List Char) :
    ofTrimmed? ('/' :: cs) = some (ofWord (String.ofList (lowercase (splitAtSpace cs).1))
      (argument? (splitAtSpace cs).2)) := by
  have hexit : eqIgnoringAsciiCase ('/' :: cs) "exit".toList = false := rfl
  have hclear : eqIgnoringAsciiCase ('/' :: cs) "clear".toList = false := rfl
  simp only [ofTrimmed?, hexit, hclear, Bool.false_eq_true, if_false]

theorem IsVariant.space_not_mem (hword : word ∈ words) (h : IsVariant word w) : ' ' ∉ w := by
  intro hs
  refine Command.space_not_mem hword ?_
  rw [← h]
  exact List.mem_map_of_mem (f := Char.toLower) hs

theorem Calls.ofTrimmed?_eq (hword : word ∈ words) (h : Calls word line rest) :
    ofTrimmed? line = some (ofWord word (argument? (some rest))) := by
  cases h with
  | alone hw =>
    rw [ofTrimmed?_slash, splitAtSpace_of_not_mem (hw.space_not_mem hword),
      (ofList_lowercase_eq_iff hword).mpr hw]
    rfl
  | followed hw =>
    rw [ofTrimmed?_slash, splitAtSpace_append (hw.space_not_mem hword),
      (ofList_lowercase_eq_iff hword).mpr hw]

theorem exists_calls (hword : word ∈ words)
    (h : String.ofList (lowercase (splitAtSpace cs).1) = word) :
    ∃ rest, Calls word ('/' :: cs) rest ∧
      argument? (splitAtSpace cs).2 = argument? (some rest) := by
  have hvariant := (ofList_lowercase_eq_iff hword).mp h
  rcases space_cases cs with hs | ⟨w, rest, hw, rfl⟩
  · rw [splitAtSpace_of_not_mem hs] at hvariant ⊢
    exact ⟨[], .alone hvariant, rfl⟩
  · rw [splitAtSpace_append hw] at hvariant ⊢
    exact ⟨rest, .followed hvariant, rfl⟩

theorem argument?_eq_some_iff {value : List Char} :
    argument? (some rest) = some value ↔ value = trim rest ∧ trim rest ≠ [] := by
  rw [argument?, Option.map_some, Option.filter_some]
  by_cases h : trim rest = []
  · simp [h]
  · rw [if_pos (by simpa using h), Option.some.injEq]
    exact ⟨fun he => ⟨he.symm, h⟩, fun he => he.1.symm⟩

theorem switch?_eq_some_iff {on : Bool} :
    switch? cs = some on ↔ ∃ word, (word, on) ∈ settings ∧ IsVariant word cs := by
  constructor
  · intro h
    have hfold {word : String} (hw : String.ofList (lowercase cs) = word)
        (hmem : (word, on) ∈ settings) : ∃ word, (word, on) ∈ settings ∧ IsVariant word cs := by
      exact ⟨word, hmem, (ofList_lowercase_eq_iff (mem_words_of_setting hmem)).mp hw⟩
    simp only [switch?] at h
    split at h
    · next hw =>
      obtain rfl := Option.some.inj h
      rcases hw with hw | hw | hw <;> exact hfold hw (by decide)
    split at h
    · next hw =>
      obtain rfl := Option.some.inj h
      rcases hw with hw | hw | hw <;> exact hfold hw (by decide)
    · cases h
  · rintro ⟨word, hmem, hw⟩
    simp only [switch?, (ofList_lowercase_eq_iff (mem_words_of_setting hmem)).mpr hw]
    simp only [settings, List.mem_cons, Prod.mk.injEq, List.not_mem_nil, or_false] at hmem
    rcases hmem with ⟨rfl, rfl⟩ | ⟨rfl, rfl⟩ | ⟨rfl, rfl⟩ | ⟨rfl, rfl⟩ | ⟨rfl, rfl⟩ | ⟨rfl, rfl⟩ <;>
      decide

theorem ofWord_of_mem (h : (word, command) ∈ plainWords) (argument : Option (List Char)) :
    ofWord word argument = command := by
  simp only [plainWords, List.mem_cons, Prod.mk.injEq, List.not_mem_nil, or_false] at h
  rcases h with ⟨rfl, rfl⟩ | ⟨rfl, rfl⟩ | ⟨rfl, rfl⟩ | ⟨rfl, rfl⟩ | ⟨rfl, rfl⟩ | ⟨rfl, rfl⟩ |
    ⟨rfl, rfl⟩ | ⟨rfl, rfl⟩ | ⟨rfl, rfl⟩ <;> rfl

theorem ofWord_save (h : trim rest ≠ []) :
    ofWord "save" (argument? (some rest)) = .save (String.ofList (trim rest)) := by
  rw [argument?_eq_some_iff.mpr ⟨rfl, h⟩]
  rfl

theorem ofWord_stream {on : Bool} (hmem : (word, on) ∈ settings) (hw : IsVariant word (trim rest)) :
    ofWord "stream" (argument? (some rest)) = .stream on := by
  have hblank : trim rest ≠ [] := by
    intro hb
    rw [hb] at hw
    have hempty : (word, on) ∉ settings := by
      rw [← String.ofList_toList (s := word), ← hw]
      cases on <;> decide
    exact hempty hmem
  have hswitch : switch? (trim rest) = some on := switch?_eq_some_iff.mpr ⟨word, hmem, hw⟩
  rw [argument?_eq_some_iff.mpr ⟨rfl, hblank⟩, ofWord, Option.bind_some, hswitch]

theorem Denotes.ne_invalid (h : Denotes line command) (message : String) :
    command ≠ .invalid message := by
  cases h with
  | plain hmem =>
    rintro rfl
    simp [plainWords] at hmem
  | _ => exact Command.noConfusion

theorem Denotes.ofTrimmed?_eq (h : Denotes line command) : ofTrimmed? line = some command := by
  cases h with
  | bareExit hw => exact ofTrimmed?_of_exit hw
  | bareClear hw => exact ofTrimmed?_of_clear hw
  | plain hmem hcalls =>
    rw [hcalls.ofTrimmed?_eq (mem_words_of_plain hmem), ofWord_of_mem hmem]
  | save hcalls hrest => rw [hcalls.ofTrimmed?_eq (by decide), ofWord_save hrest]
  | stream hmem hw hcalls => rw [hcalls.ofTrimmed?_eq (by decide), ofWord_stream hmem hw]

theorem ofWord_cases (word : String) (argument : Option (List Char)) :
    (word, ofWord word argument) ∈ plainWords ∨
      (∃ path, word = "save" ∧ argument = some path ∧
        ofWord word argument = .save (String.ofList path)) ∨
      (∃ value on, word = "stream" ∧ argument = some value ∧ switch? value = some on ∧
        ofWord word argument = .stream on) ∨
      ∃ message, ofWord word argument = .invalid message := by
  fun_cases ofWord word argument
  case case10 path => exact .inr (.inl ⟨path, rfl, rfl, rfl⟩)
  case case12 on hon =>
    obtain ⟨value, hvalue, hswitch⟩ := Option.bind_eq_some_iff.mp hon
    exact .inr (.inr (.inl ⟨value, on, rfl, hvalue, hswitch, rfl⟩))
  all_goals first | exact .inl (by decide) | exact .inr (.inr (.inr ⟨_, rfl⟩))

theorem denotes_of_slash (h : ofTrimmed? ('/' :: cs) = some command)
    (hvalid : ∀ message, command ≠ .invalid message) : Denotes ('/' :: cs) command := by
  rw [ofTrimmed?_slash, Option.some.injEq] at h
  rcases ofWord_cases (String.ofList (lowercase (splitAtSpace cs).1))
      (argument? (splitAtSpace cs).2) with hmem | ⟨path, hw, hpath, he⟩ |
      ⟨value, on, hw, hvalue, hon, he⟩ | ⟨message, he⟩
  · rw [h] at hmem
    obtain ⟨rest, hcalls, -⟩ := exists_calls (mem_words_of_plain hmem) rfl
    exact .plain hmem hcalls
  · obtain ⟨rest, hcalls, hargument⟩ := exists_calls (by decide) hw
    obtain ⟨rfl, hrest⟩ := argument?_eq_some_iff.mp (hargument.symm.trans hpath)
    rw [← h, he]
    exact .save hcalls hrest
  · obtain ⟨rest, hcalls, hargument⟩ := exists_calls (by decide) hw
    obtain ⟨rfl, -⟩ := argument?_eq_some_iff.mp (hargument.symm.trans hvalue)
    obtain ⟨word, hmem, hvariant⟩ := switch?_eq_some_iff.mp hon
    rw [← h, he]
    exact .stream hmem hvariant hcalls
  · exact absurd (h.symm.trans he) (hvalid message)

/-- A line is a bare word, begins with a slash, or is a message. -/
theorem line_cases (line : List Char) :
    IsVariant "exit" line ∨ IsVariant "clear" line ∨ (∃ cs, line = '/' :: cs) ∨
      ofTrimmed? line = none ∧
        ¬ IsVariant "exit" line ∧ ¬ IsVariant "clear" line ∧ line.head? ≠ some '/' := by
  by_cases hexit : IsVariant "exit" line
  · exact .inl hexit
  by_cases hclear : IsVariant "clear" line
  · exact .inr (.inl hclear)
  refine .inr (.inr ?_)
  unfold ofTrimmed?
  rw [if_neg (mt (eqIgnoringAsciiCase_iff (by decide)).mp hexit),
    if_neg (mt (eqIgnoringAsciiCase_iff (by decide)).mp hclear)]
  split
  · exact .inl ⟨_, rfl⟩
  · next hslash =>
    refine .inr ⟨rfl, hexit, hclear, fun hhead => ?_⟩
    obtain ⟨cs, hcs⟩ := List.head?_eq_some_iff.mp hhead
    exact hslash cs hcs

theorem denotes_iff : Denotes line command ↔
    ofTrimmed? line = some command ∧ ∀ message, command ≠ .invalid message := by
  constructor
  · intro h
    exact ⟨h.ofTrimmed?_eq, h.ne_invalid⟩
  · rintro ⟨h, hvalid⟩
    rcases line_cases line with hexit | hclear | ⟨cs, rfl⟩ | ⟨hnone, -⟩
    · rw [ofTrimmed?_of_exit hexit] at h
      exact Option.some.inj h ▸ .bareExit hexit
    · rw [ofTrimmed?_of_clear hclear] at h
      exact Option.some.inj h ▸ .bareClear hclear
    · exact denotes_of_slash h hvalid
    · rw [hnone] at h
      cases h

theorem ofTrimmed?_eq_none_iff : ofTrimmed? line = none ↔
    ¬ IsVariant "exit" line ∧ ¬ IsVariant "clear" line ∧ line.head? ≠ some '/' := by
  constructor
  · intro h
    rcases line_cases line with hexit | hclear | ⟨cs, rfl⟩ | ⟨-, hmessage⟩
    · simp [ofTrimmed?_of_exit hexit] at h
    · simp [ofTrimmed?_of_clear hclear] at h
    · simp [ofTrimmed?_slash] at h
    · exact hmessage
  · rintro ⟨hexit, hclear, hslash⟩
    rcases line_cases line with h | h | ⟨cs, rfl⟩ | ⟨h, -⟩
    · exact absurd h hexit
    · exact absurd h hclear
    · exact absurd rfl hslash
    · exact h

theorem ofTrimmed?_eq_invalid_iff : (∃ message, ofTrimmed? line = some (.invalid message)) ↔
    line.head? = some '/' ∧ ∀ command, ¬ Denotes line command := by
  constructor
  · rintro ⟨message, h⟩
    have hnot (command : Command) : ¬ Denotes line command := by
      intro hd
      exact hd.ne_invalid message (Option.some.inj (hd.ofTrimmed?_eq.symm.trans h))
    refine ⟨?_, hnot⟩
    rcases line_cases line with hexit | hclear | ⟨cs, rfl⟩ | ⟨hnone, -⟩
    · exact absurd (.bareExit hexit) (hnot .exit)
    · exact absurd (.bareClear hclear) (hnot .clear)
    · rfl
    · rw [hnone] at h
      cases h
  · rintro ⟨hslash, hnot⟩
    obtain ⟨cs, rfl⟩ := List.head?_eq_some_iff.mp hslash
    rw [ofTrimmed?_slash]
    by_contra hvalid
    refine hnot _ (denotes_iff.mpr ⟨ofTrimmed?_slash cs, fun message hm => ?_⟩)
    exact hvalid ⟨message, congrArg some hm⟩

/-- What a line asks for is what its trimmed form denotes. It is a message exactly if that is no
bare word and begins with no slash, and what begins with a slash and denotes nothing is wrong. A
word of a command has ASCII letters only, the path to save to is kept as it stands, and blanks
around the line do not matter. -/
theorem parse?_follows_grammar (line : String) :
    (parse? line = none ↔ ¬ IsVariant "exit" (trim line.toList) ∧
      ¬ IsVariant "clear" (trim line.toList) ∧ (trim line.toList).head? ≠ some '/') ∧
    (∀ command, Denotes (trim line.toList) command ↔
      parse? line = some command ∧ ∀ message, command ≠ .invalid message) ∧
    ((∃ message, parse? line = some (.invalid message)) ↔
      (trim line.toList).head? = some '/' ∧ ∀ command, ¬ Denotes (trim line.toList) command) ∧
    (∀ word ∈ words, ∀ cs, lowercase cs = word.toList → ∀ c ∈ cs, c.toNat < 0x80) ∧
    parse? (trimmed line) = parse? line := by
  refine ⟨ofTrimmed?_eq_none_iff, fun command => denotes_iff, ofTrimmed?_eq_invalid_iff,
    fun word hword cs hcs => isAscii_of_lowercase_eq hword hcs, ?_⟩
  rw [parse?, parse?, trimmed, String.toList_ofList, trim_trim]

example : parse? " /SAVE  Notes of May.json " = some (.save "Notes of May.json") := by
  decide +kernel

end Parley.Command
