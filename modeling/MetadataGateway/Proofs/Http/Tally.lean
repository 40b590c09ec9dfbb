import MetadataGateway.Proofs.Dispatch.Accounting
import MetadataGateway.Proofs.Http.Visits

/-!
# The counters of requests

The requests that the journal of a reception has are the messages that have been answered, each once
and under its name, with the status of the response that it got (`Tallies.recorded`). Everything
else that `Tallies` says of the counters follows from that and from which statuses there are. It
holds at every moment: messages that are not answered yet are counted as such.

A failed call of the backend is counted before its message is answered. So the failures of an
operation exceed the answers with the status 400 at most by the messages that are on their way, and
do not exceed them when there are none (`Tallies.settled`).
-/

namespace MetadataGateway.Http

open Dispatch

variable {β σ : Type} {g : Gateway β σ} {limit : Nat}

namespace Visit

/-- The name of a message that has been answered, with the status of its response. -/
def told (limit : Nat) (v : Visit) : Option (String × Nat) :=
  v.response?.map fun response => (messageLabel limit v.message, response.status)

/-- Whether the operation is being dispatched for a message. -/
def executes (op : Operation) (v : Visit) : Bool :=
  match v.phase with
  | .dispatching op' _ => op' = op
  | .answered .. => false

/-- A message that is answered has told its label and status. -/
lemma told_answered (limit : Nat) (m : Message) (response : Response) (recorded : Journal) :
    told limit ⟨m, .answered response recorded⟩ =
      some (messageLabel limit m, response.status) := rfl

/-- While a message is dispatched, it has no response. -/
lemma response?_of_executes {op : Operation} {v : Visit} (executes : v.executes op = true) :
    v.response? = none := by
  obtain ⟨m, phase⟩ := v
  cases phase with
  | dispatching => rfl
  | answered => cases executes

end Visit

/-- What the counters of requests say of the messages of a reception. -/
structure Tallies (limit : Nat) (s : Reception β σ) : Prop where
  /-- A message has recorded one request when it has been answered, and none before. -/
  each : ∀ v ∈ s.tasks, v.recorded.requests = (v.told limit).toList
  /-- The journal is what the messages have recorded. -/
  journal : s.world.journal.Perm (s.tasks.flatMap Visit.recorded)
  recorded : s.world.journal.requests.Perm (s.tasks.filterMap (Visit.told limit))
  requests : ∀ label status,
    s.world.journal.count (.requests label status) =
      s.tasks.countP fun v => v.told limit == some (label, status)
  durations : ∀ label,
    s.world.journal.count (.durations label) =
      s.tasks.countP fun v => (v.told limit).any (·.1 = label)
  /-- The counters of requests add up to the messages, without those that are on their way. -/
  total : s.world.journal.total Counter.isOfRequests +
      s.tasks.countP (fun v => v.response?.isNone) = s.tasks.length
  /-- Under each name, the counters of requests add up to the durations. -/
  statuses : ∀ label,
    s.world.journal.total (Counter.isOfRequestsOf label) =
      s.world.journal.count (.durations label)
  /-- Only operations have answers. -/
  served : s.world.journal.count (.requests "none" 200) = 0
  /-- No operation has too long a body. -/
  tooLong : ∀ label, label ≠ "none" → s.world.journal.count (.requests label 413) = 0
  backendErrors : ∀ op ∈ Operation.table,
    s.world.journal.count (.backendErrors op.flag) ≤
      s.world.journal.count (.requests op.flag 400) + s.tasks.countP (Visit.executes op)
  /-- When all messages have been answered, every one is counted, and the failures of an operation
  are among its answers with the status 400. -/
  settled : (∀ v ∈ s.tasks, v.response? ≠ none) →
    s.world.journal.total Counter.isOfRequests = s.tasks.length ∧
    ∀ op ∈ Operation.table,
      s.world.journal.count (.backendErrors op.flag) ≤
        s.world.journal.count (.requests op.flag 400)

/-! ## One message -/

/-- On the way past the cache no requests are recorded. -/
lemma requests_of_crossing {enabled : Bool} {policy : Policy} {op : Operation} {r : Request}
    {key : Option Fingerprint} {outcome : Outcome} {accesses : List Cache.Access}
    {recorded : Journal} (crossing : Crossing enabled policy op r key outcome accesses recorded) :
    Journal.requests recorded = [] := by
  cases crossing <;> rfl

/-- A store that has been asked to take a payload records no requests. -/
lemma requests_storeEvents (answer : Except Cache.Error Unit) :
    (storeEvents answer).requests = [] := by
  cases answer <;> rfl

/-- A thread records no requests. -/
lemma requests_of_thread {enabled : Bool} {policy : Policy} {t : Thread}
    (sound : t.Sound enabled policy) : t.recorded.requests = [] := by
  cases sound with
  | unsupported | lookup | hit => rfl
  | refused _ crossing | call _ crossing | answered _ crossing | store _ crossing =>
    exact requests_of_crossing crossing
  | failed _ crossing =>
    rw [Journal.requests_append, requests_of_crossing crossing]
    rfl
  | stored _ crossing =>
    rw [Journal.requests_append, requests_of_crossing crossing, requests_storeEvents]
    rfl

/-- Every failure has the same status. -/
lemma status_failure (e : Failure) : e.status = 400 := by
  cases e <;> rfl

/-- No operation has the label of none. -/
lemma flag_ne_noOperation : ∀ op ∈ Operation.table, op.flag ≠ noOperation := by
  decide

namespace Visit.Sound

variable {v : Visit}

/-- A message has recorded the status of its response under its name, and no other request. -/
lemma requests (sound : v.Sound g limit) : v.recorded.requests = (v.told limit).toList := by
  cases sound with
  | unread read =>
    rw [told_answered, messageLabel_of_unread read]
    rfl
  | unsupported read sel =>
    rw [told_answered, messageLabel_of_unsupported read sel]
    rfl
  | dispatching _ _ sound => exact requests_of_thread sound
  | answered read sel sound =>
    rw [told_answered, messageLabel_of_select read sel, recorded, Journal.requests_append,
      requests_of_thread sound, recordedStatus_eq]
    rfl

/-- Without an operation a message is refused, and only then its body may be too long. -/
lemma told_eq_some (sound : v.Sound g limit) {label : String} {status : Nat}
    (told : v.told limit = some (label, status)) :
    (label = noOperation ∧ (status = 400 ∨ status = 413)) ∨
    (∃ op ∈ Operation.table, label = op.flag ∧ (status = 200 ∨ status = 400)) := by
  cases sound with
  | unread read =>
    rw [told_answered, messageLabel_of_unread read] at told
    cases told
    obtain ⟨-, ⟨-, rfl⟩ | ⟨-, e, -, rfl⟩⟩ := readRequest_eq_error read
    · exact .inl ⟨rfl, .inr rfl⟩
    · exact .inl ⟨rfl, .inl rfl⟩
  | @unsupported _ _ e read sel =>
    rw [told_answered, messageLabel_of_unsupported read sel] at told
    cases told
    exact .inl ⟨rfl, .inl (status_failure e)⟩
  | dispatching => cases told
  | @answered _ op result _ read sel =>
    rw [told_answered, messageLabel_of_select read sel] at told
    cases told
    refine .inr ⟨op, mem_table_of_select sel, rfl, ?_⟩
    cases result with
    | ok => exact .inl rfl
    | error e => exact .inr (status_failure e)

/-- A failed call is counted for a message that is answered with the status 400, or will be. -/
lemma backendErrors (sound : v.Sound g limit) {op : Operation} (mem : op ∈ Operation.table) :
    v.recorded.count (.backendErrors op.flag) ≤
      (v.told limit == some (op.flag, 400)).toNat + (v.executes op).toNat := by
  cases sound with
  | unread | unsupported => simp [recorded]
  | @dispatching m op' t read sel sound =>
    have same : t.selects op = executes op ⟨m, .dispatching op' t⟩ := by
      simp [Thread.selects, executes, sel]
    rw [recorded, sound.backendErrors mem, same]
    exact Nat.le_add_left_of_le (Bool.toNat_le_toNat (Bool.and_le_left _ _))
  | @answered m op' result t read sel sound ended =>
    simp only [recorded, Journal.count_append, sound.backendErrors mem]
    by_cases failed : (t.selects op && t.failedWith "backend_call") = true
    case neg => simp [failed]
    case pos =>
      rw [Bool.and_eq_true] at failed
      obtain ⟨selects, failed⟩ := failed
      have same : op' = op := by simpa [Thread.selects, sel] using selects
      subst same
      cases result with
      | ok => simp [Thread.failedWith, ended] at failed
      | error e =>
        have told : (messageLabel limit m, (respond (.error e)).status) = (op'.flag, 400) := by
          rw [messageLabel_of_select read sel, respond, failureResponse, Response.error,
            status_failure]
        rw [told_answered, told]
        simp [selects, failed]

end Visit.Sound

/-! ## All messages -/

namespace Reception.Sound

variable {s : Reception β σ}

/-- The requests in the journal are the messages that have been answered. -/
lemma requests_perm (sound : Sound g limit s) :
    s.world.journal.requests.Perm (s.tasks.filterMap (Visit.told limit)) := by
  have perm := Journal.requests_of_perm sound.journal
  have each : ∀ v ∈ s.tasks, v.recorded.requests = (v.told limit).toList :=
    fun v mem => (sound.tasks v mem).requests
  rw [Journal.requests_flatMap, List.flatMap_congr each] at perm
  rw [List.filterMap_eq_flatMap_toList]
  exact perm

/-- The requests counted under a label and a status are the messages that have told both. -/
lemma count_requests (sound : Sound g limit s) (label : String) (status : Nat) :
    s.world.journal.count (.requests label status) =
      s.tasks.countP fun v => v.told limit == some (label, status) := by
  rw [Journal.count_requests, sound.requests_perm.count_eq, List.count_filterMap]

/-- The durations counted under a label are those of the messages that have told it. -/
lemma count_durations (sound : Sound g limit s) (label : String) :
    s.world.journal.count (.durations label) =
      s.tasks.countP fun v => (v.told limit).any (·.1 = label) := by
  rw [Journal.count_durations, sound.requests_perm.countP_eq, List.countP_filterMap]
  refine List.countP_congr fun v _ => ?_
  cases v.told limit <;> rfl

/-- The counters of requests add up to the messages that have been answered. -/
lemma total_requests (sound : Sound g limit s) :
    s.world.journal.total Counter.isOfRequests +
      s.tasks.countP (fun v => v.response?.isNone) = s.tasks.length := by
  rw [Journal.total_requests, sound.requests_perm.length_eq, List.length_filterMap_eq_countP,
    List.length_eq_countP_add_countP fun v => (v.told limit).isSome]
  congr 1
  refine List.countP_congr fun v _ => ?_
  rw [Visit.told, Option.isSome_map]
  cases v.response? <;> simp

/-- A label and a status count for nothing if no message can have them. -/
lemma count_requests_eq_zero (sound : Sound g limit s) {label : String} {status : Nat}
    (impossible : ∀ v : Visit, v.Sound g limit → v.told limit ≠ some (label, status)) :
    s.world.journal.count (.requests label status) = 0 := by
  rw [sound.count_requests, List.countP_eq_zero]
  intro v mem told
  exact impossible v (sound.tasks v mem) (eq_of_beq told)

/-- The errors of the backend for an operation are no more than its requests with status 400 and
those that are being executed. -/
lemma count_backendErrors (sound : Sound g limit s) {op : Operation} (mem : op ∈ Operation.table) :
    s.world.journal.count (.backendErrors op.flag) ≤
      s.world.journal.count (.requests op.flag 400) + s.tasks.countP (Visit.executes op) := by
  rw [sound.count_requests, Journal.count_of_perm sound.journal, Journal.count_flatMap,
    countP_eq_sum, countP_eq_sum, ← List.sum_map_add]
  exact List.sum_le_sum fun v here => (sound.tasks v here).backendErrors mem

/-- A sound reception tells what has come of its messages. -/
lemma tallies (sound : Sound g limit s) : Tallies limit s where
  each v mem := (sound.tasks v mem).requests
  journal := sound.journal
  recorded := sound.requests_perm
  requests := sound.count_requests
  durations := sound.count_durations
  total := sound.total_requests
  statuses := s.world.journal.total_requestsOf
  served := by
    refine sound.count_requests_eq_zero fun v visit told => ?_
    obtain ⟨-, status⟩ | ⟨op, mem, flag, -⟩ := visit.told_eq_some told
    · omega
    · exact flag_ne_noOperation op mem flag.symm
  tooLong label other := by
    refine sound.count_requests_eq_zero fun v visit told => ?_
    obtain ⟨same, -⟩ | ⟨op, mem, flag, status⟩ := visit.told_eq_some told
    · exact other same
    · omega
  backendErrors op mem := sound.count_backendErrors mem
  settled answered := by
    have none_waits : s.tasks.countP (fun v => v.response?.isNone) = 0 := by
      simpa [List.countP_eq_zero] using answered
    have none_executes (op : Operation) : s.tasks.countP (Visit.executes op) = 0 := by
      rw [List.countP_eq_zero]
      exact fun v here executes => answered v here (Visit.response?_of_executes executes)
    refine ⟨?_, fun op mem => ?_⟩
    · rw [← sound.total_requests, none_waits, Nat.add_zero]
    · rw [← Nat.add_zero (s.world.journal.count (.requests op.flag 400)), ← none_executes op]
      exact sound.count_backendErrors mem

end Reception.Sound

/-- From counters at zero, the counters of requests say at every moment what has been answered,
whatever turns the messages take and whatever the backend and the store do: every message counts
once, under the operation that it selects or under none, with the status of its response. Messages
that are handled one after another are a reception in which all have been answered. -/
theorem Reception.run_tallies (g : Gateway β σ) (limit : Nat) (backend : β) (store : σ) :
    (∀ turns, Tallies limit ((receiving g limit).run (.initial backend store) turns)) ∧
    ∀ ms, ∃ turns,
      let s := (receiving g limit).run (.initial backend store) turns
      s.world = (handleAll g limit ms ⟨backend, store, []⟩).2 ∧
      s.tasks.map Visit.message = ms ∧
      s.tasks.map Visit.response? =
        (handleAll g limit ms ⟨backend, store, []⟩).1.map some := by
  refine ⟨fun turns => (sound_run g limit backend store turns).tallies, fun ms => ?_⟩
  obtain ⟨turns, visits, same, messages, responses⟩ :=
    exists_run_eq_handleAll g limit ms [] ⟨backend, store, []⟩
  refine ⟨turns, ?_⟩
  rw [Interleaving.initial, same]
  exact ⟨rfl, messages, responses⟩

end MetadataGateway.Http
