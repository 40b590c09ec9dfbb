import Mathlib.Logic.Function.Basic
import Mathlib.Tactic.Common
import MetadataGateway.Cache.Memory
import MetadataGateway.Proofs.Logs

/-!
# What a store has

The state of a store may be anything, and a store may fail at any get and at any set. A view of its
contents says what the store has under each key; gets leave that alone, and a set changes it at one
key or not at all. So what a store has behind a log is what it had before, or what the log has it
take (`Follows.has_eq`, `Follows.mem_of_has`).
-/

namespace MetadataGateway.Cache

variable {σ : Type}

/-- What a store has under each key. A set that fails may still have come through. -/
structure Contents (p : Provider σ) (has : σ → Fingerprint → Option (List UInt8)) : Prop where
  get : ∀ key s, has (p.get key s).2 = has s
  set : ∀ key payload s, has (p.set key payload s).2 = has s ∨
    has (p.set key payload s).2 = Function.update (has s) key (some payload)
  taken : ∀ key payload s, (p.set key payload s).1 = .ok () →
    has (p.set key payload s).2 = Function.update (has s) key (some payload)

section contents

variable {p : Provider σ} {has : σ → Fingerprint → Option (List UInt8)} {key : Fingerprint}
  {payload : List UInt8} {s s' : σ}

/-- Behind a get a store has what it had. -/
lemma Contents.has_of_get (contents : Contents p has) {answer}
    (got : p.get key s = (answer, s')) : has s' = has s := by
  have same := contents.get key s
  rw [got] at same
  exact same

/-- Behind a set a store has what it had, or has the payload as well. -/
lemma Contents.has_of_set (contents : Contents p has) {answer}
    (put : p.set key payload s = (answer, s')) :
    has s' = has s ∨ has s' = Function.update (has s) key (some payload) := by
  have changed := contents.set key payload s
  rw [put] at changed
  exact changed

/-- Behind a set that has not failed a store has the payload. -/
lemma Contents.has_of_taken (contents : Contents p has)
    (put : p.set key payload s = (.ok (), s')) :
    has s' = Function.update (has s) key (some payload) := by
  have took := contents.taken key payload s
  rw [put] at took
  exact took rfl

end contents

section follows

variable {cache : Option (Provider σ)} {has : σ → Fingerprint → Option (List UInt8)}
  {log : List Access} {s s' : σ}

/-- Behind a log in which nothing is set, a store has what it had. -/
lemma Follows.has_eq (contents : ∀ p, cache = some p → Contents p has)
    (follows : Follows cache log s s')
    (unset : ∀ key payload told, .set key payload told ∉ log) : has s' = has s := by
  induction follows with
  | nil => rfl
  | get cached got _ ih =>
    have behind := ih fun key payload told mem =>
      unset key payload told (List.mem_cons_of_mem _ mem)
    rw [behind, (contents _ cached).has_of_get got]
  | set => exact absurd List.mem_cons_self (unset _ _ _)

/-- What a store has behind a log it had before, or the log has it. -/
lemma Follows.mem_of_has (contents : ∀ p, cache = some p → Contents p has)
    (follows : Follows cache log s s') {key : Fingerprint} {payload : List UInt8}
    (here : has s' key = some payload) :
    has s key = some payload ∨ ∃ told, .set key payload told ∈ log := by
  induction follows with
  | nil => exact .inl here
  | get cached got _ ih =>
    obtain old | ⟨told, mem⟩ := ih here
    · rw [(contents _ cached).has_of_get got] at old
      exact .inl old
    · exact .inr ⟨told, List.mem_cons_of_mem _ mem⟩
  | @set p written offered answer _ _ _ _ cached put _ ih =>
    obtain old | ⟨told, mem⟩ := ih here
    · obtain same | changed := (contents p cached).has_of_set put
      · rw [same] at old
        exact .inl old
      · rw [changed, Function.update_apply] at old
        split at old
        · rename_i same
          cases old
          exact .inr ⟨answer, same ▸ List.mem_cons_self⟩
        · exact .inl old
    · exact .inr ⟨told, List.mem_cons_of_mem _ mem⟩

end follows

namespace Memory

variable {getFails setFails : Bool}

/-- A store in memory has what it gives, whether or not its gets or its sets fail. -/
lemma contents (getFails setFails : Bool) :
    Contents (Memory.provider getFails setFails) Memory.get? := by
  have put : ∀ key payload (m : Memory),
      (m.set key payload).get? = Function.update m.get? key (some payload) := by
    intro key payload m
    funext other
    rw [get?_set, Function.update_apply]
  constructor
  case get =>
    intro key m
    cases getFails <;> rfl
  case set =>
    intro key payload m
    cases setFails with
    | true => exact .inl rfl
    | false => exact .inr (put key payload m)
  case taken =>
    intro key payload m took
    cases setFails with
    | true => cases took
    | false => exact put key payload m

/-- What a store in memory gives is there. -/
lemma get?_of_get {key : Fingerprint} {payload : List UInt8} {m m' : Memory}
    (got : (provider getFails setFails).get key m = (.ok (some payload), m')) :
    m.get? key = some payload := by
  cases getFails with
  | true => cases got
  | false => exact Except.ok.inj (congrArg Prod.fst got)

/-- What a log of a store in memory gives was there before, or the log has it. -/
lemma mem_of_given {cache : Option (Provider Memory)} {log : List Access} {m m' : Memory}
    (memory : ∀ p, cache = some p → ∃ getFails setFails, p = provider getFails setFails)
    (follows : Follows cache log m m') {key : Fingerprint} {payload : List UInt8}
    (given : .get key (.ok (some payload)) ∈ log) :
    m.get? key = some payload ∨ ∃ told, .set key payload told ∈ log := by
  obtain ⟨p, before, after, m₁, m₂, cached, rfl, first, got⟩ := follows.of_get_mem given
  obtain ⟨getFails, setFails, rfl⟩ := memory p cached
  have contents : ∀ p, cache = some p → Contents p get? := by
    rintro p rfl
    cases cached
    exact Memory.contents getFails setFails
  exact (first.mem_of_has contents (get?_of_get got)).imp_right fun ⟨told, mem⟩ =>
    ⟨told, List.mem_append_left _ mem⟩

end Memory

end MetadataGateway.Cache
