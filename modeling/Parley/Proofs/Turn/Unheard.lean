import Parley.Proofs.Runs
import Parley.Proofs.Turn.Added

/-! # Turns that were not heard

A turn that fails before the generator is called returns a failed history without a lost reply. The
history is then as it was before only if the message of the user was refused. When the transcript
cannot be read back, that message is recorded already, and a caller who tries again says it twice.
-/

namespace Parley.Service

open Turn (Added Returned)

inductive Act where
  | part (i : Nat) (p : Turn.Part)
  | cancel (i : Nat)
  | wait (moment : Nat)
  deriving DecidableEq, Repr

def act (s : Service) : Act → Option Service
  | .part i p => s.step i p
  | .cancel i => some (s.cancel i)
  | .wait moment => if s.now < moment then some { s with now := moment } else none

variable {s v u : Service} {k : Nat} {id : SessionId} {text : String}

theorem act_cases {a : Act} (ha : v.act a = some u) :
    (∃ i part, a = .part i part ∧ v.step i part = some u) ∨
      (∃ i, a = .cancel i ∧ u = v.cancel i) ∨
      ∃ moment, a = .wait moment ∧ u = { v with now := moment } := by
  cases a with
  | part i part => exact .inl ⟨i, part, rfl, ha⟩
  | cancel i => exact .inr (.inl ⟨i, rfl, (Option.some.inj ha).symm⟩)
  | wait moment =>
    simp only [act] at ha
    split at ha
    · exact .inr (.inr ⟨moment, rfl, (Option.some.inj ha).symm⟩)
    · cases ha

theorem follows_act {a : Act} (h : ∃ added t, Follows s k id text added t v)
    (ha : v.act a = some u) : ∃ added t, Follows s k id text added t u := by
  obtain ⟨added, t, h⟩ := h
  rcases act_cases ha with ⟨i, p, rfl, ha⟩ | ⟨i, rfl, rfl⟩ | ⟨moment, rfl, rfl⟩
  · by_cases hi : i = k
    · subst hi
      obtain ⟨t₁, t', v', ht₁, hstep, rfl⟩ := step_eq_some_iff.mp ha
      obtain rfl := Option.some.inj (h.here.symm.trans ht₁)
      obtain ⟨more, h'⟩ := h.own hstep
      exact ⟨_, t', h'⟩
    · exact ⟨added, t, h.other ha hi⟩
  · have hcore : (v.cancel i).turns.map Turn.core = v.turns.map Turn.core := by
      refine map_modify_of_eq (fun t => ?_) ..
      rfl
    obtain ⟨t', -, h'⟩ := h.of_core (onward_cancel v i) rfl hcore
    exact ⟨added, t', h'⟩
  · have honward : Onward v { v with now := moment } :=
      ⟨List.suffix_rfl, rfl, rfl, .refl v.turns⟩
    obtain ⟨t', -, h'⟩ := h.of_core (u := { v with now := moment }) honward rfl rfl
    exact ⟨added, t', h'⟩

/-- A turn that ends with a failed history and without a lost reply has left the transcript as it
was just if the message of the user was refused. Otherwise it is the transcript that could not be
read, and the message was added. -/
theorem unheard_unless_unread {s v : Service} {k : Nat} {t t' : Turn} {text m : String} {c : Cause}
    {acts : List Act} (ht : s.turns[k]? = some t) (hs : t.stage = .asked text)
    (hothers : ∀ (i : Nat) (u : Turn), s.turns[i]? = some u → i ≠ k → u.Harmless t.session)
    (h : acts.foldlM act s = some v) (ht' : v.turns[k]? = some t')
    (hs' : t'.stage = .answered (.error (.historyWrite m none c))) :
    (v.archive.find? t.session = s.archive.find? t.session ↔
        m = "could not record user message") ∧
      (m ≠ "could not record user message" →
        m = "could not read transcript" ∧ s.options.context = .fullTranscript ∧
          ∃ before after, s.archive.find? t.session = some before ∧
            v.archive.find? t.session = some after ∧
            after.pairs = before.pairs ++ [(.user, text)]) := by
  obtain ⟨added, t₁, hfollows⟩ := keeps_foldlM (P := fun v => ∃ added t₁,
    Follows s k t.session text added t₁ v) (fun _ hv ha => follows_act hv ha) h
    ⟨[], t, follows_asked ht hs hothers⟩
  obtain rfl := Option.some.inj (ht'.symm.trans hfollows.here)
  have hadded := hfollows.added
  rw [hs'] at hadded
  rw [hfollows.gained.find?_eq_iff]
  rcases hadded with ⟨rfl, rfl⟩ | ⟨rfl, hc, rfl⟩
  · exact ⟨by simp, fun hn => absurd rfl hn⟩
  · refine ⟨by simp, fun _ => ⟨rfl, hc, ?_⟩⟩
    obtain ⟨before, hb⟩ := Option.isSome_iff_exists.mp (hfollows.gained.known (by simp))
    obtain ⟨after, ha, hpairs⟩ := hfollows.gained.pairs hb
    exact ⟨before, after, hb, ha, hpairs⟩

/-- A streamed turn whose message is refused, while time passes and another turn is cancelled. -/
theorem unheard_unless_unread_refused :
    let archive : Archive :=
      { (Archive.create { clock := default }).2 with
        faults := { append := fun _ _ => some (.storage "disk full") } }
    let s : Service :=
      (({ archive, options := { context := .fullTranscript } } : Service).ask (.ofSerial 2) .blocking
        "Hi").ask (.ofSerial 1) .streaming "Hello"
    ∃ v t m c, [.cancel 0, .wait 7, .part 1 .call].foldlM act s = some v ∧ v.turns[1]? = some t ∧
      t.stage = .answered (.error (.historyWrite m none c)) ∧
      v.archive.find? (.ofSerial 1) = s.archive.find? (.ofSerial 1) := by
  intro archive s
  obtain ⟨v, t, m, c, h, ht, hs, hm⟩ : ∃ v t m c,
      [.cancel 0, .wait 7, .part 1 .call].foldlM act s = some v ∧ v.turns[1]? = some t ∧
        t.stage = .answered (.error (.historyWrite m none c)) ∧
        m = "could not record user message" := ⟨_, _, _, _, rfl, rfl, rfl, rfl⟩
  have hothers : ∀ (i : Nat) (u : Turn), s.turns[i]? = some u → i ≠ 1 →
      u.Harmless (.ofSerial 1) := by
    intro i u hu hi
    match i with
    | 0 =>
      obtain rfl := Option.some.inj hu
      have hne : SessionId.ofSerial 2 ≠ .ofSerial 1 := by decide
      exact hne
    | i + 2 => cases hu
  obtain ⟨hiff, -⟩ := unheard_unless_unread (t := _) rfl rfl hothers h ht hs
  exact ⟨v, t, m, c, h, ht, hs, hiff.mpr hm⟩

/-- A turn whose message is recorded, although its history failed and no reply was lost. -/
theorem unread_keeps_message :
    let archive : Archive :=
      { (Archive.create { clock := default }).2 with
        faults := { read := fun _ => some (.storage "disk unplugged") } }
    let s : Service :=
      ({ archive, options := { context := .fullTranscript } } : Service).ask (.ofSerial 1) .blocking
        "Hello"
    ∃ v t m c, s.step 0 .call = some v ∧ v.turns[0]? = some t ∧
      t.stage = .answered (.error (.historyWrite m none c)) ∧
      (s.archive.find? (.ofSerial 1)).map Transcript.pairs = some [] ∧
      (v.archive.find? (.ofSerial 1)).map Transcript.pairs = some [(.user, "Hello")] :=
  ⟨_, _, _, _, rfl, rfl, rfl, rfl, rfl⟩

end Parley.Service
