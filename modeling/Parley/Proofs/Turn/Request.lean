import Parley.Proofs.Turn.Step

/-! # Requests

A turn that was begun asks once for a reply. Whether the generator is called, and with what, is
decided by the archive at that moment: the message has to be recorded, and the transcript has to be
read if the generator is to see it.
-/

namespace Parley

def ContextPolicy.shown (context : ContextPolicy) (said : List Message) (m : Message) :
    List Message :=
  match context with
  | .currentTurn => [m]
  | .fullTranscript => said ++ [m]

structure Request where
  session : SessionId
  delivery : Delivery
  text : String
  deriving DecidableEq

namespace Request

variable {r : Request} {context : ContextPolicy} {a b : Archive} {c : Call} {m : Message}

/-- The call that a request leads to, if its message is recorded and what the generator is to see
can be read. -/
def call? (r : Request) (context : ContextPolicy) (a : Archive) : Option Call :=
  match a.append r.session .user r.text with
  | (.error _, _) => none
  | (.ok m, b) =>
    match context, (b.get r.session).1 with
    | .currentTurn, _ => some { delivery := r.delivery, messages := [m] }
    | .fullTranscript, .ok t => some { delivery := r.delivery, messages := t.messages }
    | .fullTranscript, .error _ => none

theorem get_after_append {t : Transcript} (ha : a.append r.session .user r.text = (.ok m, b))
    (hb : (b.get r.session).1 = .ok t) :
    ∃ t₀, a.find? r.session = some t₀ ∧ t.messages = t₀.messages ++ [m] := by
  obtain ⟨-, hknown, hfind⟩ := Archive.append_ok ha
  obtain ⟨t₀, ht₀⟩ := Option.isSome_iff_exists.mp hknown
  refine ⟨t₀, ht₀, ?_⟩
  have hfound : b.find? r.session = some (t₀.extend [m]) := by
    rw [hfind, if_pos rfl, ht₀, Option.map_some]
  simp only [Archive.get] at hb
  split at hb
  · cases hb
  · change b.store.find? r.session = _ at hfound
    rw [Store.get, hfound] at hb
    obtain rfl := Except.ok.inj hb
    rfl

theorem call?_eq_some (h : r.call? context a = some c) :
    c.delivery = r.delivery ∧ ∃ m t, m.role = .user ∧ m.text = r.text ∧
      a.find? r.session = some t ∧ c.messages = context.shown t.messages m := by
  rw [call?] at h
  split at h
  · cases h
  · next m b ha =>
    obtain ⟨⟨hrole, htext⟩, hknown, -⟩ := Archive.append_ok ha
    obtain ⟨t, ht⟩ := Option.isSome_iff_exists.mp hknown
    split at h
    · obtain rfl := Option.some.inj h
      exact ⟨rfl, m, t, hrole, htext, ht, rfl⟩
    · next t' hb =>
      obtain rfl := Option.some.inj h
      obtain ⟨t₀, ht₀, hmessages⟩ := get_after_append ha hb
      exact ⟨rfl, m, t₀, hrole, htext, ht₀, hmessages⟩
    · cases h

end Request

def Turn.request? (t : Turn) : Option Request :=
  match t.stage with
  | .asked text => some { session := t.session, delivery := t.delivery, text }
  | _ => none

namespace Service

variable {s s' : Service} {t t' : Turn} {part : Turn.Part}

theorem call?_of_shows {r : Request} {m : Message} {a b : Archive} {messages : List Message}
    (ha : s.archive.append r.session .user r.text = (.ok m, a))
    (hb : s.Shows r.session m a messages b) :
    r.call? s.options.context s.archive = some { delivery := r.delivery, messages } := by
  rw [Shows] at hb
  split at hb
  · next hc =>
    obtain ⟨rfl, -⟩ := hb
    simp [Request.call?, ha, hc]
  · next hc =>
    obtain ⟨t, ht, rfl⟩ := hb
    simp [Request.call?, ha, hc, ht]

theorem CallMove.request (h : CallMove s t t' s') :
    t'.request? = none ∧ s'.generator.calls = s.generator.calls ++
      (t.request?.bind (·.call? s.options.context s.archive)).toList := by
  cases h with
  | unheard hs ha => exact ⟨rfl, by simp [Turn.request?, hs, Request.call?, ha]⟩
  | unread hs ha hc hb => exact ⟨rfl, by simp [Turn.request?, hs, Request.call?, ha, hc, hb]⟩
  | @call text m a b messages p g hs ha hb hg =>
    refine ⟨rfl, ?_⟩
    have hcall := call?_of_shows (r := { session := t.session, delivery := t.delivery, text }) ha hb
    have hcalls := Generator.calls_call s.generator t.delivery messages
    rw [hg] at hcalls
    simpa [Turn.request?, hs, hcall] using hcalls
  | reply hs | refuse hs | stream hs | fail hs | withdraw hs | record hs | lose hs =>
    exact ⟨rfl, by simp [Turn.request?, hs]⟩

theorem turnStep_request (h : s.turnStep t part = some (t', s')) :
    t'.request? = none ∧ (part ≠ .call → t.request? = none) ∧
      s'.generator.calls = s.generator.calls ++
        (t.request?.bind (·.call? s.options.context s.archive)).toList := by
  cases part with
  | call =>
    obtain ⟨ht', hcalls⟩ := (call_move h).request
    exact ⟨ht', by simp, hcalls⟩
  | feed =>
    obtain ⟨feed, relay, hs, hf, rfl⟩ := feeding_of_turnStep h
    have hnone : t.request? = none := by simp [Turn.request?, hs]
    obtain ⟨_, _, rfl⟩ := feedStep_eq hf
    exact ⟨rfl, fun _ => hnone, by simp [hnone]⟩
  | relay =>
    obtain ⟨feed, relay, relay', a, hs, -, rfl, rfl⟩ := relaying_of_turnStep h
    have hnone : t.request? = none := by simp [Turn.request?, hs]
    exact ⟨rfl, fun _ => hnone, by simp [hnone]⟩

theorem Move.options_eq (h : Move s t t' s') : s'.options = s.options := by
  cases h with
  | call h => exact h.options_eq
  | feed | relay => rfl

end Service

end Parley
