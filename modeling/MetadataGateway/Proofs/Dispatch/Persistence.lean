import MetadataGateway.Proofs.Dispatch.Effect
import MetadataGateway.Proofs.Dispatch.Transparency

/-!
# A target that was served stays served

Behind a store in memory that does not fail, an entry is written only where there is none, because
the lookup and the store of a dispatch have the same key. So entries stay for good, and a target
that was answered once, by the backend or from the cache, is answered from the cache ever after,
with the same payload, whatever else is dispatched in between. Different targets may have the same
fingerprint; then the first of them to be answered has the entry.
-/

namespace MetadataGateway.Dispatch

open Cache (Memory)

variable {β : Type}

/-- A gateway with a store in memory that does not fail. -/
def Gateway.overMemory (backend : Backend β) (policy : Policy) : Gateway β Memory :=
  ⟨backend, some (Memory.provider false false), policy⟩

/-- The cache is there for a request: the policy lets its operation use it, and it has no values in
its body. -/
structure Cacheable (policy : Policy) (op : Operation) (r : Request) : Prop where
  select : select r = .ok op
  applies : policy.appliesTo op = true
  bare : r.hasBodyValues = false

section step

variable {backend : Backend β} {policy : Policy} {op : Operation} {r : Request}
  {w w' : World β Memory} {report : Report}

/-- A request that the cache is there for selects its operation, and has its fingerprint for a
key. -/
lemma Cacheable.keyed (backend : Backend β) (cacheable : Cacheable policy op r) {op'}
    (sel : Dispatch.select r = .ok op') :
    op' = op ∧
      cacheKey (Gateway.overMemory backend policy).cacheEnabled
        (Gateway.overMemory backend policy).policy op' r = some (.ofUri r.uri) := by
  have same : op' = op := by
    rw [cacheable.select] at sel
    exact (Except.ok.inj sel).symm
  subst same
  exact ⟨rfl, cacheKey_eq_some.2 ⟨rfl, cacheable.applies, cacheable.bare, rfl⟩⟩

section store

variable {p : Cache.Provider Memory} {key : Fingerprint} {m m' : Memory}

/-- A get tells what is there, and leaves it. -/
lemma get_overMemory {answer} (cached : (Gateway.overMemory backend policy).cache = some p)
    (got : p.get key m = (answer, m')) : answer = .ok (m.get? key) ∧ m' = m := by
  cases cached
  exact ⟨(congrArg Prod.fst got).symm, (congrArg Prod.snd got).symm⟩

/-- A set puts the payload there. -/
lemma set_overMemory {payload answer} (cached : (Gateway.overMemory backend policy).cache = some p)
    (put : p.set key payload m = (answer, m')) : m' = m.set key payload := by
  cases cached
  exact (congrArg Prod.snd put).symm

/-- A request gets past the cache when there is nothing under its key, and leaves what is there. -/
lemma Crossing.overMemory {enabled key outcome accesses recorded}
    (crossing : Crossing enabled policy op r key outcome accesses recorded)
    (accessed : Cache.Follows (Gateway.overMemory backend policy).cache accesses m m') :
    m' = m ∧ ∀ k, key = some k → m.get? k = none := by
  cases crossing with
  | missed _ absent =>
    obtain ⟨p, cached, got⟩ := accessed.get_of_singleton
    obtain ⟨rfl, rfl⟩ := get_overMemory cached got
    refine ⟨rfl, fun k same => ?_⟩
    cases same
    exact absent
  | bypassed | disabled => exact ⟨accessed.eq_of_nil, nofun⟩

end store

/-- Entries stay. -/
lemma Course.get?_of_get? (course : Course (.overMemory backend policy) r w report w')
    {key : Fingerprint} {payload : List UInt8} (here : w.store.get? key = some payload) :
    w'.store.get? key = some payload := by
  obtain ⟨answer, calls, accesses, recorded⟩ := report
  obtain ⟨sound, -, accessed⟩ := course
  cases sound with
  | unsupported => rw [accessed.eq_of_nil, here]
  | hit =>
    obtain ⟨p, cached, got⟩ := accessed.get_of_singleton
    rw [(get_overMemory cached got).2, here]
  | refused _ crossing | failed _ crossing | answered _ crossing =>
    rw [(crossing.overMemory accessed).1, here]
  | @stored _ _ written _ _ _ _ _ _ _ crossing =>
    obtain ⟨s₁, first, last⟩ := accessed.split
    obtain ⟨rfl, free⟩ := crossing.overMemory first
    obtain ⟨p, cached, put⟩ := last.set_of_singleton
    -- What was there is under another key, because the lookup found nothing under this one.
    have other : key ≠ written := by
      rintro rfl
      rw [free key rfl] at here
      cases here
    rw [set_overMemory cached put, Memory.get?_set, if_neg other, here]

/-- A request that the cache is there for has its key when it gets past the cache. -/
lemma Cacheable.crossing_key (cacheable : Cacheable policy op r) {op' key outcome accesses recorded}
    (sel : Dispatch.select r = .ok op')
    (crossing : Crossing (Gateway.overMemory backend policy).cacheEnabled
      (Gateway.overMemory backend policy).policy op' r key outcome accesses recorded) :
    key = some (.ofUri r.uri) := by
  have keyed := (cacheable.keyed backend sel).2
  cases crossing with
  | missed keyed' =>
    rw [keyed] at keyed'
    exact keyed'.symm
  | bypassed keyless =>
    rw [keyed] at keyless
    cases keyless
  | disabled disabled => cases disabled

/-- What has been answered is there. -/
lemma Course.get?_of_ok (course : Course (.overMemory backend policy) r w report w')
    (cacheable : Cacheable policy op r) {a : Served} (answer : report.answer = .ok a) :
    w'.store.get? (.ofUri r.uri) = some a.payload := by
  obtain ⟨result, calls, accesses, recorded⟩ := report
  obtain ⟨sound, -, accessed⟩ := course
  cases sound with
  | unsupported | refused | failed => cases answer
  | hit sel keyed =>
    cases answer
    obtain ⟨p, cached, got⟩ := accessed.get_of_singleton
    obtain ⟨found, same⟩ := get_overMemory cached got
    obtain ⟨-, -, -, rfl⟩ := cacheKey_eq_some.1 keyed
    rw [same]
    exact (Except.ok.inj found).symm
  | answered sel crossing => cases cacheable.crossing_key sel crossing
  | stored sel crossing =>
    cases answer
    cases cacheable.crossing_key sel crossing
    obtain ⟨s₁, first, last⟩ := accessed.split
    obtain ⟨p, cached, put⟩ := last.set_of_singleton
    rw [set_overMemory cached put]
    exact (Memory.get?_set _ _ _ _).trans (if_pos rfl)

/-- What is there is the answer. -/
lemma Course.hit_of_get? (course : Course (.overMemory backend policy) r w report w')
    (cacheable : Cacheable policy op r) {payload : List UInt8}
    (here : w.store.get? (.ofUri r.uri) = some payload) :
    report.answer = .ok ⟨op, payload, .hit⟩ ∧ report.calls = [] := by
  obtain ⟨answer, calls, accesses, recorded⟩ := report
  obtain ⟨sound, -, accessed⟩ := course
  -- A way past the store shows that it held nothing under the key, and it holds the payload.
  have not_past {op' key outcome accesses recorded m₁} (sel : Dispatch.select r = .ok op')
      (crossing : Crossing (Gateway.overMemory backend policy).cacheEnabled
        (Gateway.overMemory backend policy).policy op' r key outcome accesses recorded)
      (accessed : Cache.Follows (Gateway.overMemory backend policy).cache accesses w.store m₁) :
      False := by
    have free := (crossing.overMemory accessed).2 _ (cacheable.crossing_key sel crossing)
    rw [free] at here
    cases here
  cases sound with
  | unsupported sel =>
    rw [cacheable.select] at sel
    cases sel
  | hit sel keyed =>
    obtain ⟨p, cached, got⟩ := accessed.get_of_singleton
    obtain ⟨found, -⟩ := get_overMemory cached got
    obtain ⟨-, -, -, rfl⟩ := cacheKey_eq_some.1 keyed
    obtain ⟨rfl, -⟩ := cacheable.keyed backend sel
    rw [here] at found
    cases found
    exact ⟨rfl, rfl⟩
  | refused sel crossing | failed sel crossing | answered sel crossing =>
    exact (not_past sel crossing accessed).elim
  | stored sel crossing =>
    obtain ⟨s₁, first, -⟩ := accessed.split
    exact (not_past sel crossing first).elim

/-- A dispatch whose call succeeds is answered. -/
lemma Course.ok_of_successful (course : Course (.overMemory backend policy) r w report w')
    {call : Backend.Exchange} (made : call ∈ report.calls) (successful : call.answer.isOk = true) :
    ∃ a, report.answer = .ok a := by
  obtain ⟨answer, calls, accesses, recorded⟩ := report
  cases course.sound with
  | unsupported | hit | refused => cases made
  | failed =>
    cases List.mem_singleton.1 made
    cases successful
  | answered | stored => exact ⟨_, rfl⟩

end step

/-! ## Runs -/

variable (backend : Backend β) (policy : Policy)

/-- Entries stay along a run. -/
lemma Gateway.get?_reportAll {rs : List Request} {w : World β Memory} {key : Fingerprint}
    {payload : List UInt8} (here : w.store.get? key = some payload) :
    ((overMemory backend policy).reportAll rs w).2.store.get? key = some payload := by
  induction rs generalizing w with
  | nil => exact here
  | cons r rs ih =>
    rw [reportAll_cons]
    exact ih ((report_course _ r w).get?_of_get? here)

/-- Entries stay from one place of a run to every later one. -/
lemma Gateway.get?_reportAll_take {rs : List Request} {w : World β Memory} {i j : Nat} (le : i ≤ j)
    {key : Fingerprint} {payload : List UInt8}
    (here : ((overMemory backend policy).reportAll (rs.take i) w).2.store.get? key = some payload) :
    ((overMemory backend policy).reportAll (rs.take j) w).2.store.get? key = some payload := by
  have split : rs.take j = rs.take i ++ (rs.take j).drop i := by
    have front : (rs.take j).take i = rs.take i := by rw [List.take_take, Nat.min_eq_left le]
    rw [← front, List.take_append_drop]
  rw [split, reportAll, oneByOne_append]
  exact get?_reportAll backend policy here

/-- A request without values in its body is cacheable if its target is. -/
lemma Cacheable.of_target {policy uri op body}
    (cacheable : Cacheable policy op (.ofTarget uri none))
    (bare : (Request.ofTarget uri body).hasBodyValues = false) :
    Cacheable policy op (.ofTarget uri body) := by
  rw [Request.ofTarget_eq_of_no_body_values bare]
  exact cacheable

/-- The successful calls of a dispatch, if its request is for a target and has no values in its
body. -/
def successesOf (uri : String) (t : String × Option (List UInt8)) (report : Report) :
    List Backend.Exchange :=
  if t.1 = uri ∧ (Request.ofTarget t.1 t.2).hasBodyValues = false then
    report.calls.filter (·.answer.isOk)
  else []

/-- The successful calls for a target that were made for requests without values in their bodies. -/
def successes (uri : String) (entries : List ((String × Option (List UInt8)) × Report)) :
    List Backend.Exchange :=
  entries.flatMap fun e => successesOf uri e.1 e.2

section successes

variable {uri : String} {op : Operation} {t : String × Option (List UInt8)}
  {w w' : World β Memory} {report : Report}

/-- Where there is an entry for a target, there is no call for it. -/
lemma Course.successesOf_eq_nil
    (course : Course (.overMemory backend policy) (.ofTarget t.1 t.2) w report w')
    (cacheable : Cacheable policy op (.ofTarget uri none)) {payload : List UInt8}
    (here : w.store.get? (.ofUri uri) = some payload) : successesOf uri t report = [] := by
  unfold successesOf
  split
  · rename_i counted
    obtain ⟨rfl, bare⟩ := counted
    rw [(course.hit_of_get? (cacheable.of_target bare) here).2]
    rfl
  · rfl

/-- A successful call for a target leaves an entry for it. -/
lemma Course.get?_of_successesOf
    (course : Course (.overMemory backend policy) (.ofTarget t.1 t.2) w report w')
    (cacheable : Cacheable policy op (.ofTarget uri none))
    (some_call : successesOf uri t report ≠ []) :
    ∃ payload, w'.store.get? (.ofUri uri) = some payload := by
  unfold successesOf at some_call
  split at some_call
  · rename_i counted
    obtain ⟨rfl, bare⟩ := counted
    obtain ⟨call, made⟩ := List.exists_mem_of_ne_nil _ some_call
    obtain ⟨made, successful⟩ := List.mem_filter.1 made
    obtain ⟨a, answer⟩ := course.ok_of_successful made successful
    exact ⟨_, course.get?_of_ok (cacheable.of_target bare) answer⟩
  · exact absurd rfl some_call

/-- A dispatch has at most one successful call for a target. -/
lemma Course.length_successesOf_le {g : Gateway β Memory} {r}
    (course : Course g r w report w') : (successesOf uri t report).length ≤ 1 := by
  unfold successesOf
  split
  · exact Nat.le_trans (List.length_filter_le _ _) course.sound.calls_length_le
  · exact Nat.zero_le 1

end successes

/-- Where there is an entry for a target, a run has no more successful calls for it. -/
lemma successes_eq_nil {uri op payload} (cacheable : Cacheable policy op (.ofTarget uri none))
    (requests : List (String × Option (List UInt8))) {w : World β Memory}
    (here : w.store.get? (.ofUri uri) = some payload) :
    successes uri (requests.zip ((Gateway.overMemory backend policy).reportAll
      (requests.map fun t => .ofTarget t.1 t.2) w).1) = [] := by
  induction requests generalizing w with
  | nil => rfl
  | cons t rest ih =>
    have course := (Gateway.overMemory backend policy).report_course (.ofTarget t.1 t.2) w
    have behind := ih (course.get?_of_get? here)
    unfold successes at behind ⊢
    rw [List.map_cons, Gateway.reportAll_cons, List.zip_cons_cons, List.flatMap_cons, behind,
      course.successesOf_eq_nil backend policy cacheable here, List.append_nil]

/-- A run has at most one successful call for a target. -/
lemma length_successes_le {uri op} (cacheable : Cacheable policy op (.ofTarget uri none))
    (requests : List (String × Option (List UInt8))) (w : World β Memory) :
    (successes uri (requests.zip ((Gateway.overMemory backend policy).reportAll
      (requests.map fun t => .ofTarget t.1 t.2) w).1)).length ≤ 1 := by
  induction requests generalizing w with
  | nil => exact Nat.zero_le 1
  | cons t rest ih =>
    have course := (Gateway.overMemory backend policy).report_course (.ofTarget t.1 t.2) w
    rw [List.map_cons, Gateway.reportAll_cons, List.zip_cons_cons, successes, List.flatMap_cons]
    by_cases first : successesOf uri t ((Gateway.overMemory backend policy).report
      (.ofTarget t.1 t.2) w).1 = []
    · rw [first]
      exact ih _
    · -- The first successful call leaves an entry, behind which there is no other.
      obtain ⟨payload, here⟩ := course.get?_of_successesOf backend policy cacheable first
      have behind := successes_eq_nil backend policy cacheable rest here
      unfold successes at behind
      rw [behind, List.append_nil]
      exact course.length_successesOf_le

/-- Over a store in memory that does not fail, a target whose request was answered without values in
its body is answered from the cache ever after, with the payload of that answer and without a call,
whatever else is dispatched in between. So there is at most one successful call for it. What is
stored stays. -/
theorem Gateway.served_stays (w : World β Memory) (requests : List (String × Option (List UInt8))) :
    let g := Gateway.overMemory backend policy
    let rs := requests.map fun t => Request.ofTarget t.1 t.2
    let reports := (g.reportAll rs w).1
    (reports.map Report.answer, (g.reportAll rs w).2) = g.dispatchAll rs w ∧
    (∀ (i j : Nat) uri body body' op a earlier, i < j →
      requests[i]? = some (uri, body) → Cacheable policy op (.ofTarget uri body) →
      reports[i]? = some earlier → earlier.answer = .ok a →
      requests[j]? = some (uri, body') → (Request.ofTarget uri body').hasBodyValues = false →
      ∃ later, reports[j]? = some later ∧ later.answer = .ok ⟨op, a.payload, .hit⟩ ∧
        later.calls = []) ∧
    (∀ uri op, Cacheable policy op (.ofTarget uri none) →
      (successes uri (requests.zip reports)).length ≤ 1) ∧
    (∀ (i j : Nat) key payload, i ≤ j →
      (g.reportAll (rs.take i) w).2.store.get? key = some payload →
      (g.reportAll (rs.take j) w).2.store.get? key = some payload) := by
  intro g rs reports
  refine ⟨g.reportAll_eq_dispatchAll rs w, ?_,
    fun uri op cacheable => length_successes_le backend policy cacheable requests w,
    fun i j key payload le here => get?_reportAll_take backend policy le here⟩
  intro i j uri body body' op a earlier lt first cacheable reported answer second bare
  have first' : rs[i]? = some (.ofTarget uri body) := by simp [rs, first]
  have second' : rs[j]? = some (.ofTarget uri body') := by simp [rs, second]
  obtain ⟨report, behind⟩ := oneByOne_getElem? first' w
  have same := report.symm.trans reported
  cases same
  -- The entry is there behind the first answer, and it still is when the second request comes.
  have there := (g.report_course _ _).get?_of_ok cacheable answer
  rw [← behind] at there
  have here := get?_reportAll_take backend policy (Nat.succ_le_of_lt lt) there
  have cacheable' : Cacheable policy op (.ofTarget uri body') := by
    rw [Request.ofTarget_eq_of_no_body_values cacheable.bare] at cacheable
    exact cacheable.of_target bare
  exact ⟨_, (oneByOne_getElem? second' w).1, (g.report_course _ _).hit_of_get? cacheable' here⟩

end MetadataGateway.Dispatch
