import MetadataGateway.Dispatch.Basic
import MetadataGateway.Journal

/-!
# The stages of a dispatch

A dispatch waits at most three times: for the cache to be looked up, for the backend to answer, and
for the cache to take the answer. Between two waits it runs on its own. A stage is what a dispatch
is waiting for with all that it still needs, so that many dispatches can take turns.
-/

namespace MetadataGateway.Dispatch

/-- What a dispatch is waiting for. -/
inductive Stage where
  /-- For what the cache has under a key. -/
  | lookup (op : Operation) (r : Request) (key : Fingerprint)
  /-- For the backend's answer. With a key, the answer goes to the cache. -/
  | call (op : Operation) (r : Request) (key : Option Fingerprint) (outcome : Outcome)
      (args : List Argument)
  /-- For the cache to take the answer. -/
  | store (op : Operation) (key : Fingerprint) (payload : List UInt8)
  /-- For nothing. -/
  | done (result : Except Failure Served)

namespace Stage

/-- How many waits a dispatch has before it at most. -/
def waits : Stage → Nat
  | lookup .. => 3
  | call .. => 2
  | store .. => 1
  | done _ => 0

/-- Prepare the arguments and wait for the backend, or fail. -/
def prepared (op : Operation) (r : Request) (key : Option Fingerprint) (outcome : Outcome) :
    Stage :=
  match Coercion.prepare op r with
  | .ok args => call op r key outcome args
  | .error e => done (.error (.coercion e))

/-- The first stage of a dispatch, and what is recorded on the way. -/
def start (enabled : Bool) (policy : Policy) (op : Operation) (r : Request) : Stage × Journal :=
  match cacheKey enabled policy op r with
  | some key => (lookup op r key, [])
  | none =>
    if enabled then (prepared op r none .bypass, [.cache .bypass])
    else (prepared op r none .disabled, [])

/-- The stage behind a lookup. -/
def afterLookup (op : Operation) (r : Request) (key : Fingerprint) :
    Option (List UInt8) → Stage
  | some payload => done (.ok ⟨op, payload, .hit⟩)
  | none => prepared op r (some key) .miss

/-- The stage behind a call, and what is recorded on the way. -/
def afterCall (op : Operation) (r : Request) (key : Option Fingerprint) (outcome : Outcome) :
    Except Backend.Error String → Stage × Journal
  | .error e =>
    (done (.error (.backend e)),
      [.warning (.backendFailed op.flag r.gpath e.message), .backendError op.flag])
  | .ok text =>
    let payload := Utf8.encodeString text
    match key with
    | some key => (store op key payload, [])
    | none => (done (.ok ⟨op, payload, outcome⟩), [])

/-- The stage behind a store. -/
def afterStore (op : Operation) (payload : List UInt8) : Stage :=
  done (.ok ⟨op, payload, .miss⟩)

/-- Behind the preparation at most two steps are left. -/
theorem waits_prepared_le (op : Operation) (r : Request) (key : Option Fingerprint)
    (outcome : Outcome) : (prepared op r key outcome).waits ≤ 2 := by
  unfold prepared
  split <;> simp [waits]

/-- Behind a lookup fewer steps are left than before it. -/
theorem waits_afterLookup_lt (op : Operation) (r : Request) (key : Fingerprint)
    (payload : Option (List UInt8)) : (afterLookup op r key payload).waits < 3 := by
  cases payload with
  | some _ => simp [afterLookup, waits]
  | none => exact Nat.lt_succ_of_le (waits_prepared_le ..)

/-- Behind a call fewer steps are left than before it. -/
theorem waits_afterCall_lt (op : Operation) (r : Request) (key : Option Fingerprint)
    (outcome : Outcome) (answer : Except Backend.Error String) :
    (afterCall op r key outcome answer).1.waits < 2 := by
  cases answer with
  | error e => simp [afterCall, waits]
  | ok text => cases key <;> simp [afterCall, waits]

end Stage

end MetadataGateway.Dispatch
