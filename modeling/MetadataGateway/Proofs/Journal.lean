import Mathlib.Algebra.BigOperators.Group.List.Lemmas
import Mathlib.Algebra.GroupWithZero.Nat
import Mathlib.Tactic.Common
import MetadataGateway.Journal
import MetadataGateway.Proofs.Lists

/-!
# Counting in a journal

Counters add up over the parts of a journal and do not depend on their order, and the warnings of a
journal are those of its parts. Every request that is recorded counts once as a request and once as
a duration, so the counters of requests add up to the number of durations, under each name and in
all.
-/

namespace MetadataGateway.Counter

/-- Whether a counter is one of requests. -/
def isOfRequests : Counter → Bool
  | .requests .. => true
  | _ => false

/-- Whether a counter is one of the requests of this name. -/
def isOfRequestsOf (operation : String) : Counter → Bool
  | .requests operation' _ => operation' = operation
  | _ => false

end MetadataGateway.Counter

namespace MetadataGateway.Journal

variable {α : Type}

/-- An empty journal counts nothing. -/
@[simp]
lemma count_nil (c : Counter) : count [] c = 0 := rfl

/-- A cache event counts once. -/
@[simp]
lemma count_cache (e : CacheEvent) (j : Journal) (c : Counter) :
    count (.cache e :: j) c = (if Counter.cacheEvents e = c then 1 else 0) + count j c := by
  simp [count, counted, Event.counters, List.count_cons, Nat.add_comm]

/-- An error of the backend counts once for its operation. -/
@[simp]
lemma count_backendError (operation : String) (j : Journal) (c : Counter) :
    count (.backendError operation :: j) c =
      (if Counter.backendErrors operation = c then 1 else 0) + count j c := by
  simp [count, counted, Event.counters, List.count_cons, Nat.add_comm]

/-- A warning is not counted. -/
@[simp]
lemma count_warning (w : Warning) (j : Journal) (c : Counter) :
    count (.warning w :: j) c = count j c := rfl

/-- A request counts once with its status and once with its duration. -/
@[simp]
lemma count_request (operation : String) (status : Nat) (j : Journal) (c : Counter) :
    count (.request operation status :: j) c =
      (if Counter.requests operation status = c then 1 else 0) +
        (if Counter.durations operation = c then 1 else 0) + count j c := by
  simp only [count, counted, List.flatMap_cons, Event.counters, List.count_append, List.count_cons,
    List.count_nil, beq_iff_eq]
  omega

/-- Two journals count what each of them counts. -/
@[simp]
lemma count_append (j k : Journal) (c : Counter) : count (j ++ k) c = count j c + count k c := by
  simp [count, counted]

/-- A counter over all parts of a journal. -/
lemma count_flatMap (parts : List α) (part : α → Journal) (c : Counter) :
    count (parts.flatMap part) c = (parts.map fun a => count (part a) c).sum := by
  induction parts with
  | nil => rfl
  | cons a parts ih => simp [ih]

/-- Counters do not depend on the order of a journal. -/
lemma count_of_perm {j k : Journal} (perm : j.Perm k) (c : Counter) : count j c = count k c :=
  (perm.flatMap_right Event.counters).count_eq c

/-- The warnings of two journals are those of each. -/
lemma warnings_append (j k : Journal) : warnings (j ++ k) = warnings j ++ warnings k :=
  List.filterMap_append

/-! ## Requests -/

/-- The requests that have been recorded: the name of each, with its status. -/
def requests (j : Journal) : List (String × Nat) :=
  j.filterMap fun
    | .request operation status => some (operation, status)
    | _ => none

/-- The requests of two journals are those of each. -/
lemma requests_append (j k : Journal) : requests (j ++ k) = requests j ++ requests k :=
  List.filterMap_append

/-- The requests of journals one behind the other are those of each. -/
lemma requests_flatMap (parts : List α) (part : α → Journal) :
    requests (parts.flatMap part) = parts.flatMap fun a => requests (part a) :=
  List.filterMap_flatMap

/-- The order of a journal does not matter to its requests, but for their order. -/
lemma requests_of_perm {j k : Journal} (perm : j.Perm k) : (requests j).Perm (requests k) :=
  perm.filterMap _

/-- A status counts as often for an operation as there are such requests. -/
lemma count_requests (j : Journal) (operation : String) (status : Nat) :
    j.count (.requests operation status) = j.requests.count (operation, status) := by
  induction j with
  | nil => rfl
  | cons e j ih =>
    cases e with
    | request => simp [requests, List.count_cons, ih, Nat.add_comm]
    | cache | backendError | warning => simpa [requests] using ih

/-- A duration counts as often for an operation as there are requests of it. -/
lemma count_durations (j : Journal) (operation : String) :
    j.count (.durations operation) = j.requests.countP fun r => r.1 = operation := by
  induction j with
  | nil => rfl
  | cons e j ih =>
    cases e with
    | request => simp [requests, List.countP_cons, ih, Nat.add_comm]
    | cache | backendError | warning => simpa [requests] using ih

/-- The sum of the counters of a kind, over all that are published. -/
def total (kind : Counter → Bool) (j : Journal) : Nat :=
  ((j.touched.filter kind).map j.count).sum

/-- A total is the number of what is counted under counters of its kind. -/
lemma total_eq_countP (kind : Counter → Bool) (j : Journal) :
    j.total kind = j.counted.countP kind := by
  have same : j.touched.Perm j.counted.dedup := by
    rw [touched, List.perm_ext_iff_of_nodup (nodup_eraseDups _) (List.nodup_dedup _)]
    simp
  calc j.total kind
      = ((j.counted.dedup.filter kind).map j.count).sum :=
        ((same.filter kind).map j.count).sum_eq
    _ = j.counted.countP kind := List.sum_map_count_dedup_filter_eq_countP kind j.counted

/-- The counters of requests say in all how many requests have been recorded. -/
lemma total_requests (j : Journal) : j.total Counter.isOfRequests = j.requests.length := by
  rw [total_eq_countP]
  induction j with
  | nil => rfl
  | cons e j ih =>
    rw [counted, List.flatMap_cons, List.countP_append, ← counted, ih]
    cases e <;>
      simp [Event.counters, Counter.isOfRequests, requests, List.countP_cons, Nat.add_comm]

/-- For each name there are as many durations as there are requests of all statuses. -/
lemma total_requestsOf (j : Journal) (operation : String) :
    j.total (Counter.isOfRequestsOf operation) = j.count (.durations operation) := by
  rw [total_eq_countP, count_durations]
  induction j with
  | nil => rfl
  | cons e j ih =>
    rw [counted, List.flatMap_cons, List.countP_append, ← counted, ih]
    cases e <;>
      simp [Event.counters, Counter.isOfRequestsOf, requests, List.countP_cons, Nat.add_comm]

end MetadataGateway.Journal
