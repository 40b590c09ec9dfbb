import Mathlib.Algebra.BigOperators.Group.List.Basic
import Mathlib.Algebra.Order.BigOperators.Group.List
import Mathlib.Algebra.Order.Ring.Nat
import MetadataGateway.Proofs.Dispatch.Session
import MetadataGateway.Proofs.Journal

/-!
# The counters of a session

Every executed request is counted once by the cache, as a lookup or as a bypass, and every call of
the backend is an executed request that was not answered from the cache and not refused. Hits and
failed calls are counted exactly, and a failed call has one warning.

`Accounts` has all the laws. They hold at every moment: a thread that still waits for a lookup or
for the backend is counted as such. Each law is proved of one thread, where it is read off how far
the thread has come, and then summed up over all threads, because the journal is what they have
recorded.
-/

namespace MetadataGateway.Dispatch

variable {β σ : Type}

namespace Thread

/-- Whether the request selects an operation. -/
def executed (t : Thread) : Bool :=
  match select t.request with
  | .ok _ => true
  | .error _ => false

/-- Whether the request selects this operation. -/
def selects (op : Operation) (t : Thread) : Bool :=
  match select t.request with
  | .ok op' => op' = op
  | .error _ => false

/-- Whether the request selects an operation that the policy lets use the cache, and has no values
in its body. -/
def admitted (policy : Policy) (t : Thread) : Bool :=
  match select t.request with
  | .ok op => policy.appliesTo op && !t.request.hasBodyValues
  | .error _ => false

/-- Whether the dispatch waits for what the cache has. -/
def awaitsLookup (t : Thread) : Bool :=
  match t.stage with
  | .lookup .. => true
  | _ => false

/-- Whether the dispatch waits for the backend. -/
def awaitsCall (t : Thread) : Bool :=
  match t.stage with
  | .call .. => true
  | _ => false

/-- Whether the dispatch has ended with an answer in which the cache took part in this way. -/
def endedWith (outcome : Outcome) (t : Thread) : Bool :=
  match t.stage with
  | .done (.ok a) => a.cache = outcome
  | _ => false

/-- Whether the dispatch has ended with a failure of this kind. -/
def failedWith (label : String) (t : Thread) : Bool :=
  match t.stage with
  | .done (.error e) => e.label = label
  | _ => false

end Thread

/-- What the counters and the warnings say of the dispatches of a session. -/
structure Accounts (g : Gateway β σ) (s : Session β σ) : Prop where
  /-- With a cache, there is one lookup for each request that the cache is there for. -/
  lookups : g.cacheEnabled = true →
    s.world.journal.count (.cacheEvents .hit) + s.world.journal.count (.cacheEvents .miss) +
        s.world.journal.count (.cacheEvents .lookupError) + s.tasks.countP Thread.awaitsLookup =
      s.tasks.countP (Thread.admitted g.policy)
  /-- With a cache, every other executed request is a bypass. -/
  bypasses : g.cacheEnabled = true →
    s.world.journal.count (.cacheEvents .bypass) =
      s.tasks.countP fun t => t.executed && !t.admitted g.policy
  hits : s.world.journal.count (.cacheEvents .hit) = s.tasks.countP (Thread.endedWith .hit)
  storeErrors :
    s.world.journal.count (.cacheEvents .storeError) ≤ s.tasks.countP (Thread.endedWith .miss)
  /-- Without a cache, nothing counts for it. -/
  unused : g.cacheEnabled = false → ∀ e, s.world.journal.count (.cacheEvents e) = 0
  /-- An executed request has called the backend once, was answered from the cache, was refused, or
  waits for the cache or the backend. -/
  calls :
    (s.tasks.flatMap Thread.calls).length + s.tasks.countP (Thread.endedWith .hit) +
        s.tasks.countP (Thread.failedWith "parameter_coercion") +
        s.tasks.countP Thread.awaitsLookup + s.tasks.countP Thread.awaitsCall =
      s.tasks.countP Thread.executed
  backendErrors : ∀ op ∈ Operation.table,
    s.world.journal.count (.backendErrors op.flag) =
      s.tasks.countP fun t => t.selects op && t.failedWith "backend_call"
  /-- The journal is what the dispatches have recorded. -/
  recorded : s.world.journal.Perm (s.tasks.flatMap Thread.recorded)
  /-- A failed call has one warning. -/
  warned : ∀ t ∈ s.tasks, t.failedWith "backend_call" = true → ∃ op e,
    select t.request = .ok op ∧ t.stage = .done (.error (.backend e)) ∧
      t.recorded.warnings = [.backendFailed op.flag t.request.gpath e.message]
  /-- Nothing else has a warning. -/
  quiet : ∀ t ∈ s.tasks, t.failedWith "backend_call" = false → t.recorded.warnings = []

variable {g : Gateway β σ} {enabled : Bool} {policy : Policy} {op : Operation} {r : Request}

/-! ## What is recorded on the way past the cache -/

/-- Without a cache no request has a key. -/
lemma cacheKey_ne_some (disabled : enabled = false) (key : Fingerprint) :
    cacheKey enabled policy op r ≠ some key := by
  rintro keyed
  cases disabled.symm.trans (cacheKey_eq_some.1 keyed).1

/-- A lookup that finds nothing is recorded as a miss or as an error. -/
lemma lookupEvent_of_found_eq_none {answer : Except Cache.Error (Option (List UInt8))}
    (absent : Cache.found answer = none) :
    Cache.lookupEvent answer = .miss ∨ Cache.lookupEvent answer = .lookupError := by
  match answer with
  | .ok none => exact .inl rfl
  | .error e => exact .inr rfl

namespace Crossing

variable {key : Option Fingerprint} {outcome : Outcome} {accesses : List Cache.Access}
  {recorded : Journal}

/-- Where there is a cache, a lookup is recorded if the cache is there for the request, and a bypass
if it is not. -/
lemma recorded_of_enabled (crossing : Crossing enabled policy op r key outcome accesses recorded)
    (there : enabled = true) :
    (∃ event, (event = .miss ∨ event = .lookupError) ∧ recorded = [.cache event] ∧
      (policy.appliesTo op && !r.hasBodyValues) = true) ∨
    (recorded = [.cache .bypass] ∧ (policy.appliesTo op && !r.hasBodyValues) = false) := by
  cases crossing with
  | missed keyed absent =>
    obtain ⟨-, applies, bare, -⟩ := cacheKey_eq_some.1 keyed
    exact .inl ⟨_, lookupEvent_of_found_eq_none absent, rfl, by rw [applies, bare]; rfl⟩
  | bypassed keyless =>
    refine .inr ⟨rfl, ?_⟩
    by_contra admitted
    rw [Bool.not_eq_false, Bool.and_eq_true, Bool.not_eq_true'] at admitted
    cases keyless.symm.trans (cacheKey_eq_some.2 ⟨there, admitted.1, admitted.2, rfl⟩)
  | disabled disabled => cases there.symm.trans disabled

/-- On the way past a cache, one lookup is counted if the cache is there for the request. -/
lemma lookups (crossing : Crossing enabled policy op r key outcome accesses recorded)
    (there : enabled = true) :
    Journal.count recorded (.cacheEvents .hit) + Journal.count recorded (.cacheEvents .miss) +
        Journal.count recorded (.cacheEvents .lookupError) =
      (policy.appliesTo op && !r.hasBodyValues).toNat := by
  obtain ⟨_, rfl | rfl, rfl, admitted⟩ | ⟨rfl, admitted⟩ := crossing.recorded_of_enabled there <;>
    rw [admitted] <;> rfl

/-- On the way past a cache, one bypass is counted if the cache is not there for the request. -/
lemma bypasses (crossing : Crossing enabled policy op r key outcome accesses recorded)
    (there : enabled = true) :
    Journal.count recorded (.cacheEvents .bypass) =
      (!(policy.appliesTo op && !r.hasBodyValues)).toNat := by
  obtain ⟨_, rfl | rfl, rfl, admitted⟩ | ⟨rfl, admitted⟩ := crossing.recorded_of_enabled there <;>
    rw [admitted] <;> rfl

/-- Nothing but lookups and bypasses is recorded. -/
lemma count_eq_zero (crossing : Crossing enabled policy op r key outcome accesses recorded)
    {c : Counter} (not_miss : c ≠ .cacheEvents .miss) (not_error : c ≠ .cacheEvents .lookupError)
    (not_bypass : c ≠ .cacheEvents .bypass) : Journal.count recorded c = 0 := by
  cases crossing with
  | missed _ absent =>
    obtain event | event := lookupEvent_of_found_eq_none absent
    · simp [event, not_miss.symm]
    · simp [event, not_error.symm]
  | bypassed => simp [not_bypass.symm]
  | disabled => rfl

/-- Nobody is warned on the way past the cache. -/
lemma warnings_eq_nil (crossing : Crossing enabled policy op r key outcome accesses recorded) :
    Journal.warnings recorded = [] := by
  cases crossing <;> rfl

/-- Without a cache, nothing is recorded and no answer is kept. -/
lemma of_disabled (crossing : Crossing enabled policy op r key outcome accesses recorded)
    (disabled : enabled = false) : recorded = [] ∧ key = none := by
  cases crossing with
  | missed keyed => exact absurd keyed (cacheKey_ne_some disabled _)
  | bypassed _ there => cases there.symm.trans disabled
  | disabled => exact ⟨rfl, rfl⟩

end Crossing

/-- What the store does with an answer counts only if it fails. -/
lemma count_storeEvents {c : Counter} (other : c ≠ .cacheEvents .storeError)
    (answer : Except Cache.Error Unit) : Journal.count (storeEvents answer) c = 0 := by
  cases answer with
  | ok => rfl
  | error => simp [storeEvents, other.symm]

/-- A store records no event more than once. -/
lemma count_storeEvents_le (c : Counter) (answer : Except Cache.Error Unit) :
    Journal.count (storeEvents answer) c ≤ 1 := by
  cases answer with
  | ok => exact Nat.zero_le 1
  | error =>
    rw [storeEvents, Journal.count_cache]
    split
    · exact Nat.le_refl 1
    · exact Nat.zero_le 1

/-- A store records no warning. -/
lemma warnings_storeEvents (answer : Except Cache.Error Unit) :
    (storeEvents answer).warnings = [] := by
  cases answer <;> rfl

/-- No two operations of the table have the same flag. -/
lemma flag_eq_iff {op op' : Operation} (mem : op ∈ Operation.table) (mem' : op' ∈ Operation.table) :
    op.flag = op'.flag ↔ op = op' := by
  have distinct : ∀ a ∈ Operation.table, ∀ b ∈ Operation.table, a.flag = b.flag ↔ a = b := by decide
  exact distinct op mem op' mem'

/-! ## One thread -/

namespace Thread.Sound

variable {t : Thread}

/-- A thread that the cache is there for has looked it up, or waits for that. -/
lemma lookups (sound : t.Sound enabled policy) (there : enabled = true) :
    t.recorded.count (.cacheEvents .hit) + t.recorded.count (.cacheEvents .miss) +
        t.recorded.count (.cacheEvents .lookupError) + t.awaitsLookup.toNat =
      (t.admitted policy).toNat := by
  cases sound with
  | unsupported sel => simp [admitted, awaitsLookup, sel]
  | lookup sel keyed | hit sel keyed =>
    obtain ⟨-, applies, bare, -⟩ := cacheKey_eq_some.1 keyed
    simp [admitted, awaitsLookup, sel, applies, bare]
  | refused sel crossing | call sel crossing | failed sel crossing | answered sel crossing
  | store sel crossing =>
    simpa [admitted, awaitsLookup, sel] using crossing.lookups there
  | stored sel crossing =>
    simpa [admitted, awaitsLookup, sel, count_storeEvents] using crossing.lookups there

/-- A thread that the cache is not there for has passed it over. -/
lemma bypasses (sound : t.Sound enabled policy) (there : enabled = true) :
    t.recorded.count (.cacheEvents .bypass) = (t.executed && !t.admitted policy).toNat := by
  cases sound with
  | unsupported sel => simp [executed, sel]
  | lookup sel keyed | hit sel keyed =>
    obtain ⟨-, applies, bare, -⟩ := cacheKey_eq_some.1 keyed
    simp [executed, admitted, sel, applies, bare]
  | refused sel crossing | call sel crossing | failed sel crossing | answered sel crossing
  | store sel crossing =>
    simpa [executed, admitted, sel] using crossing.bypasses there
  | stored sel crossing =>
    simpa [executed, admitted, sel, count_storeEvents] using crossing.bypasses there

/-- A thread has recorded a hit just if it has ended with one. -/
lemma hits (sound : t.Sound enabled policy) :
    t.recorded.count (.cacheEvents .hit) = (t.endedWith .hit).toNat := by
  cases sound with
  | unsupported | lookup | hit => rfl
  | refused _ crossing | call _ crossing | failed _ crossing | store _ crossing =>
    simp [endedWith, crossing.count_eq_zero]
  | answered _ crossing => simp [endedWith, crossing.count_eq_zero, crossing.outcome_ne_hit]
  | stored _ crossing => simp [endedWith, crossing.count_eq_zero, count_storeEvents]

/-- A thread has recorded an error of the store only if it has ended with a miss. -/
lemma storeErrors (sound : t.Sound enabled policy) :
    t.recorded.count (.cacheEvents .storeError) ≤ (t.endedWith .miss).toNat := by
  cases sound with
  | unsupported | lookup | hit => exact Nat.zero_le _
  | refused _ crossing | call _ crossing | failed _ crossing | answered _ crossing
  | store _ crossing =>
    simp [crossing.count_eq_zero]
  | stored _ crossing => simpa [endedWith, crossing.count_eq_zero] using count_storeEvents_le _ _

/-- Without a cache a thread records nothing of it. -/
lemma unused (sound : t.Sound enabled policy) (disabled : enabled = false) (e : CacheEvent) :
    t.recorded.count (.cacheEvents e) = 0 := by
  cases sound with
  | unsupported | lookup => rfl
  | hit _ keyed => exact absurd keyed (cacheKey_ne_some disabled _)
  | refused _ crossing | call _ crossing | failed _ crossing | answered _ crossing =>
    simp [(crossing.of_disabled disabled).1]
  | store _ crossing | stored _ crossing => cases (crossing.of_disabled disabled).2

/-- A thread that selects an operation has called the backend once, or there is one reason why it
has not. -/
lemma calls (sound : t.Sound enabled policy) :
    t.calls.length + (t.endedWith .hit).toNat + (t.failedWith "parameter_coercion").toNat +
      t.awaitsLookup.toNat + t.awaitsCall.toNat = t.executed.toNat := by
  cases sound with
  | answered sel crossing =>
    simp [executed, endedWith, failedWith, awaitsLookup, awaitsCall, sel, crossing.outcome_ne_hit]
  | unsupported sel | lookup sel | hit sel | refused sel | call sel | failed sel | store sel
  | stored sel =>
    simp [executed, endedWith, failedWith, awaitsLookup, awaitsCall, sel, Failure.label]

/-- A thread has recorded an error of the backend for an operation just if it has failed with one
for that operation. -/
lemma backendErrors (sound : t.Sound enabled policy) (mem : op ∈ Operation.table) :
    t.recorded.count (.backendErrors op.flag) =
      (t.selects op && t.failedWith "backend_call").toNat := by
  cases sound with
  | unsupported | lookup | hit => simp [failedWith, Failure.label]
  | refused _ crossing | call _ crossing | answered _ crossing | store _ crossing =>
    simp [failedWith, crossing.count_eq_zero, Failure.label]
  | failed sel crossing =>
    have same := flag_eq_iff (mem_table_of_select sel) mem
    simp only [selects, failedWith, sel, Failure.label, Journal.count_append,
      crossing.count_eq_zero, Journal.count_warning, Journal.count_backendError,
      Journal.count_nil, ne_eq, reduceCtorEq, not_false_eq_true, Counter.backendErrors.injEq, same]
    split <;> simp [*]
  | stored _ crossing => simp [failedWith, crossing.count_eq_zero, count_storeEvents]

/-- A failed call leaves one warning, of its operation and path and with its message. -/
lemma warned (sound : t.Sound enabled policy) (failed : t.failedWith "backend_call" = true) :
    ∃ op e, select t.request = .ok op ∧ t.stage = .done (.error (.backend e)) ∧
      t.recorded.warnings = [.backendFailed op.flag t.request.gpath e.message] := by
  cases sound with
  | failed sel crossing =>
    refine ⟨_, _, sel, rfl, ?_⟩
    rw [Journal.warnings_append, crossing.warnings_eq_nil]
    rfl
  | _ => simp [failedWith, Failure.label] at failed

/-- A thread that has not failed with an error of the backend has recorded no warning. -/
lemma quiet (sound : t.Sound enabled policy) (other : t.failedWith "backend_call" = false) :
    t.recorded.warnings = [] := by
  cases sound with
  | unsupported | lookup | hit => rfl
  | refused _ crossing | call _ crossing | answered _ crossing | store _ crossing =>
    exact crossing.warnings_eq_nil
  | failed => simp [failedWith, Failure.label] at other
  | stored _ crossing =>
    rw [Journal.warnings_append, crossing.warnings_eq_nil, warnings_storeEvents]
    rfl

end Thread.Sound

/-! ## All threads -/

namespace Session.Sound

variable {s : Session β σ}

/-- A counter is what the threads have counted. -/
lemma count_eq_sum (sound : Session.Sound g s) (c : Counter) :
    s.world.journal.count c = (s.tasks.map fun t => t.recorded.count c).sum :=
  (Journal.count_of_perm sound.journal c).trans (Journal.count_flatMap ..)

/-- Amounts that are the same for each sound thread are the same for all of them. -/
lemma sum_eq_sum (sound : Session.Sound g s) {a b : Thread → Nat}
    (same : ∀ t, t.Sound g.cacheEnabled g.policy → a t = b t) :
    (s.tasks.map a).sum = (s.tasks.map b).sum := by
  rw [List.map_congr_left fun t mem => same t (sound.tasks t mem)]

/-- A sound session accounts for all that it has recorded. -/
lemma accounts (sound : Session.Sound g s) : Accounts g s where
  lookups enabled := by
    simp only [sound.count_eq_sum, countP_eq_sum, ← List.sum_map_add]
    exact sound.sum_eq_sum fun t sound => sound.lookups enabled
  bypasses enabled := by
    rw [sound.count_eq_sum, countP_eq_sum]
    exact sound.sum_eq_sum fun t sound => sound.bypasses enabled
  hits := by
    rw [sound.count_eq_sum, countP_eq_sum]
    exact sound.sum_eq_sum fun t sound => sound.hits
  storeErrors := by
    rw [sound.count_eq_sum, countP_eq_sum]
    exact List.sum_le_sum fun t mem => (sound.tasks t mem).storeErrors
  unused disabled e := by
    rw [sound.count_eq_sum, sound.sum_eq_sum fun t sound => sound.unused disabled e]
    simp
  calls := by
    simp only [List.length_flatMap, countP_eq_sum, ← List.sum_map_add]
    exact sound.sum_eq_sum fun t sound => sound.calls
  backendErrors op mem := by
    rw [sound.count_eq_sum, countP_eq_sum]
    exact sound.sum_eq_sum fun t sound => sound.backendErrors mem
  recorded := sound.journal
  warned t mem := (sound.tasks t mem).warned
  quiet t mem := (sound.tasks t mem).quiet

end Session.Sound

/-- From counters at zero, the counters and warnings of a session say at every moment what its
dispatches have come to, whatever turns they take and whatever the backend and the store do.
Requests that are dispatched one after another are a session in which none waits at the end. -/
theorem Session.run_accounts (g : Gateway β σ) (backend : β) (store : σ) :
    (∀ turns, Accounts g (g.dispatching.run (.initial backend store) turns)) ∧
    ∀ rs, ∃ turns,
      let s := g.dispatching.run (.initial backend store) turns
      s.world = (g.dispatchAll rs ⟨backend, store, []⟩).2 ∧
      s.tasks.map Thread.request = rs ∧
      s.tasks.map Thread.stage =
        (g.dispatchAll rs ⟨backend, store, []⟩).1.map Stage.done := by
  refine ⟨fun turns => (sound_run g backend store turns).accounts, fun rs => ?_⟩
  obtain ⟨turns, threads, same, requests, stages⟩ :=
    exists_run_eq_dispatchAll g rs [] ⟨backend, store, []⟩
  refine ⟨turns, ?_⟩
  rw [Interleaving.initial, same]
  exact ⟨rfl, requests, stages⟩

end MetadataGateway.Dispatch
