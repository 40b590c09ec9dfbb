import Mathlib.Logic.Function.Basic
import Mathlib.Tactic.Common
import MetadataGateway.Cache.Memory

/-!
# Honest stores

A store may fail at any get and at any set, and it may lose what it had. An honest store does not
invent: what it gives under a key is the last payload that it took under that key. `History` runs
through the states that a store can come to and keeps beside each of them what was taken last, and
`Honest` compares what the store gives with that. The state of a store may be anything, such as a
script of faults, so `Honest` speaks about all patterns of faults and losses.
-/

namespace MetadataGateway.Cache

variable {σ : Type}

/-- The states that an empty store comes to, each with the last payload taken under every key. -/
inductive History (p : Provider σ) (empty : σ) :
    σ → (Fingerprint → Option (List UInt8)) → Prop where
  | start : History p empty empty fun _ => none
  | get {s taken} key :
    History p empty s taken →
    History p empty (p.get key s).2 taken
  | set {s taken key payload s'} :
    History p empty s taken →
    p.set key payload s = (.ok (), s') →
    History p empty s' (Function.update taken key (some payload))
  | refused {s taken key payload e s'} :
    History p empty s taken →
    p.set key payload s = (.error e, s') →
    History p empty s' taken

/-- What the store gives under a key is the last payload that it took under that key. -/
def Honest (p : Provider σ) (empty : σ) : Prop :=
  ∀ {s taken}, History p empty s taken →
    ∀ {key payload s'}, p.get key s = (.ok (some payload), s') → taken key = some payload

/-- A store in memory has what it took last, whether or not its gets or its sets fail. -/
lemma Memory.get?_of_history {getFails setFails : Bool} {m taken}
    (hist : History (Memory.provider getFails setFails) .empty m taken) (key : Fingerprint) :
    m.get? key = taken key := by
  induction hist with
  | start => rfl
  | get _ _ ih =>
    cases getFails <;> exact ih
  | set _ did ih =>
    cases setFails with
    | true => simp [Memory.provider] at did
    | false =>
      simp only [Memory.provider, Bool.false_eq_true, if_false, Prod.mk.injEq] at did
      obtain ⟨-, rfl⟩ := did
      rw [Memory.get?_set, Function.update_apply, ih]
  | refused _ did ih =>
    cases setFails with
    | true =>
      simp only [Memory.provider, if_true, Prod.mk.injEq] at did
      obtain ⟨-, rfl⟩ := did
      exact ih
    | false => simp [Memory.provider] at did

/-- A store in memory is honest. -/
lemma Memory.honest (getFails setFails : Bool) :
    Honest (Memory.provider getFails setFails) .empty := by
  intro m taken hist key payload m' got
  cases getFails with
  | true => simp [Memory.provider] at got
  | false =>
    simp only [Memory.provider, Bool.false_eq_true, if_false, Prod.mk.injEq,
      Except.ok.injEq] at got
    rw [← Memory.get?_of_history hist key]
    exact got.1

end MetadataGateway.Cache
