import Mathlib.Tactic.Common
import MetadataGateway.Backend.Basic
import MetadataGateway.Cache.Basic

/-!
# Logs

A watched backend and a watched store do as they did before, and keep a log of what they are asked
and what they answer. A log is also what becomes of them: they follow it from the state in which it
was begun to the one in which it ends (`Backend.Follows`, `Cache.Follows`).
-/

namespace MetadataGateway

variable {β σ : Type}

/-- What the backend was asked, and what it answered. -/
structure Backend.Exchange where
  operation : Operation
  arguments : List Argument
  answer : Except Backend.Error String

/-- A backend that keeps a log. -/
def Backend.watched (b : Backend β) : Backend (β × List Backend.Exchange) where
  call op args s :=
    let (answer, state) := b.call op args s.1
    (answer, state, s.2 ++ [⟨op, args, answer⟩])

/-- A backend answers as a log has it, and comes from one state to another. -/
inductive Backend.Follows (b : Backend β) : List Backend.Exchange → β → β → Prop where
  | nil {s} :
    Follows b [] s s
  | call {op args answer s s₁ log s'} :
    b.call op args s = (answer, s₁) →
    Follows b log s₁ s' →
    Follows b (⟨op, args, answer⟩ :: log) s s'

namespace Backend.Follows

variable {b : Backend β} {log more : List Backend.Exchange} {s s₁ s' : β}

/-- Where nothing is logged, a backend is as it was. -/
lemma eq_of_nil (follows : b.Follows [] s s') : s' = s := by
  cases follows with
  | nil => rfl

/-- One call that is logged is what has been done. -/
lemma call_of_singleton {op args answer} (follows : b.Follows [⟨op, args, answer⟩] s s') :
    b.call op args s = (answer, s') := by
  cases follows with
  | call made rest => rw [made, rest.eq_of_nil]

/-- Logs that are followed one behind the other are followed as one. -/
lemma append (first : b.Follows log s s₁) (others : b.Follows more s₁ s') :
    b.Follows (log ++ more) s s' := by
  induction first with
  | nil => exact others
  | call made _ ih => exact .call made (ih others)

end Backend.Follows

namespace Cache

/-- What a store was asked, and what it answered. -/
inductive Access where
  | get (key : Fingerprint) (answer : Except Error (Option (List UInt8)))
  | set (key : Fingerprint) (payload : List UInt8) (answer : Except Error Unit)

/-- The key under which a store was asked. -/
def Access.key : Access → Fingerprint
  | .get key _ => key
  | .set key _ _ => key

/-- A store that keeps a log. -/
def Provider.watched (p : Provider σ) : Provider (σ × List Access) where
  get key s :=
    let (answer, state) := p.get key s.1
    (answer, state, s.2 ++ [.get key answer])
  set key payload s :=
    let (answer, state) := p.set key payload s.1
    (answer, state, s.2 ++ [.set key payload answer])

/-- The store of a cache answers as a log has it, and comes from one state to another. Where there
is no store, the log is empty. -/
inductive Follows (cache : Option (Provider σ)) : List Access → σ → σ → Prop where
  | nil {s} :
    Follows cache [] s s
  | get {p key answer s s₁ log s'} :
    cache = some p →
    p.get key s = (answer, s₁) →
    Follows cache log s₁ s' →
    Follows cache (.get key answer :: log) s s'
  | set {p key payload answer s s₁ log s'} :
    cache = some p →
    p.set key payload s = (answer, s₁) →
    Follows cache log s₁ s' →
    Follows cache (.set key payload answer :: log) s s'

namespace Follows

variable {cache : Option (Provider σ)} {log more : List Access} {s s₁ s' : σ} {key : Fingerprint}

/-- Where nothing is logged, a store is as it was. -/
lemma eq_of_nil (follows : Follows cache [] s s') : s' = s := by
  cases follows with
  | nil => rfl

/-- One get that is logged is what has been done. -/
lemma get_of_singleton {answer} (follows : Follows cache [.get key answer] s s') :
    ∃ p, cache = some p ∧ p.get key s = (answer, s') := by
  cases follows with
  | get cached got rest => exact ⟨_, cached, by rw [got, rest.eq_of_nil]⟩

/-- One set that is logged is what has been done. -/
lemma set_of_singleton {payload answer} (follows : Follows cache [.set key payload answer] s s') :
    ∃ p, cache = some p ∧ p.set key payload s = (answer, s') := by
  cases follows with
  | set cached put rest => exact ⟨_, cached, by rw [put, rest.eq_of_nil]⟩

/-- Logs that are followed one behind the other are followed as one. -/
lemma append (first : Follows cache log s s₁) (others : Follows cache more s₁ s') :
    Follows cache (log ++ more) s s' := by
  induction first with
  | nil => exact others
  | get cached got _ ih => exact .get cached got (ih others)
  | set cached put _ ih => exact .set cached put (ih others)

/-- A log that is followed is followed in two parts. -/
lemma split (follows : Follows cache (log ++ more) s s') :
    ∃ s₁, Follows cache log s s₁ ∧ Follows cache more s₁ s' := by
  induction log generalizing s with
  | nil => exact ⟨s, .nil, follows⟩
  | cons access log ih =>
    cases follows with
    | get cached got rest =>
      obtain ⟨s₁, first, others⟩ := ih rest
      exact ⟨s₁, .get cached got first, others⟩
    | set cached put rest =>
      obtain ⟨s₁, first, others⟩ := ih rest
      exact ⟨s₁, .set cached put first, others⟩

/-- What a log has of a get is what the store has given behind the log up to there. -/
lemma of_get_mem {answer} (follows : Follows cache log s s') (mem : .get key answer ∈ log) :
    ∃ p before after s₁ s₂, cache = some p ∧ log = before ++ .get key answer :: after ∧
      Follows cache before s s₁ ∧ p.get key s₁ = (answer, s₂) := by
  induction follows with
  | nil => cases mem
  | @get p _ _ s s₁ log _ cached got rest ih =>
    obtain here | later := List.mem_cons.1 mem
    · cases here
      exact ⟨p, [], log, s, s₁, cached, rfl, .nil, got⟩
    · obtain ⟨p', before, after, _, _, cached', rfl, follows, got'⟩ := ih later
      exact ⟨p', _ :: before, after, _, _, cached', rfl, .get cached got follows, got'⟩
  | set cached put rest ih =>
    obtain here | later := List.mem_cons.1 mem
    · cases here
    · obtain ⟨p', before, after, _, _, cached', rfl, follows, got'⟩ := ih later
      exact ⟨p', _ :: before, after, _, _, cached', rfl, .set cached put follows, got'⟩

end Follows

/-- What is found is what the store has answered. -/
lemma ok_of_found {answer : Except Error (Option (List UInt8))} {payload : List UInt8}
    (here : found answer = some payload) : answer = .ok (some payload) := by
  cases answer with
  | error e => cases here
  | ok got => exact congrArg Except.ok here

end Cache

end MetadataGateway
