import MetadataGateway.Proofs.Cache.Contents
import MetadataGateway.Proofs.Dispatch.Course

/-!
# The effect of one dispatch

A dispatch calls the backend at most once, and exactly for a request that selects an operation, is
not answered from the cache, and whose arguments can be prepared. It is answered from the cache
exactly when the store has given a payload for the fingerprint of its target. It changes what the
store has only when it ends with a miss, and then only under that fingerprint. A request that the
cache does not apply to leaves the store unasked.

Each part is read off the place that a thread is in, in a lemma of its own; `Effect` and `Footprint`
put them together.
-/

namespace MetadataGateway.Dispatch

variable {β σ : Type} {g : Gateway β σ} {r : Request} {w w' : World β σ} {report : Report}
  {has : σ → Fingerprint → Option (List UInt8)}

/-- The cache is passed over by a request with values in its body, and by one for an operation that
changes the database while the policy has such operations pass it over. -/
def PassesOver (policy : Policy) (r : Request) : Prop :=
  r.hasBodyValues = true ∨
    ∃ op, select r = .ok op ∧ op.mutatesState = true ∧ policy.bypassMutating = true

/-- What one dispatch asks of the backend and of the store, whatever they do. -/
structure Effect (g : Gateway β σ) (r : Request) (report : Report) : Prop where
  /-- There is no second call. -/
  once : report.calls.length ≤ 1
  /-- There is a call exactly when an operation is selected, its arguments are prepared, and the
  request is not answered from the cache. The call has those arguments. -/
  called : ∀ op args, (∃ answer, ⟨op, args, answer⟩ ∈ report.calls) ↔
    (select r = .ok op ∧ Coercion.prepare op r = .ok args) ∧ report.outcome? ≠ some .hit
  /-- The request is answered from the cache exactly when the store has given a payload for the
  fingerprint of the target, and with that payload. -/
  hit : ∀ op payload, report.answer = .ok ⟨op, payload, .hit⟩ ↔
    select r = .ok op ∧ .get (.ofUri r.uri) (.ok (some payload)) ∈ report.accesses
  /-- The store is asked under the fingerprint of the target, and under no other. -/
  keyed : ∀ access ∈ report.accesses, access.key = .ofUri r.uri
  /-- A request that has a key has the store asked for it before anything else. -/
  asked : ∀ op key, select r = .ok op → cacheKey g.cacheEnabled g.policy op r = some key →
    ∃ answer, report.accesses.head? = some (.get key answer)
  /-- Only a miss has the store take anything, which is the payload under the fingerprint of the
  target. -/
  wrote : ∀ key payload told, .set key payload told ∈ report.accesses →
    key = .ofUri r.uri ∧ ∃ op, report.answer = .ok ⟨op, payload, .miss⟩
  /-- A request that selects no operation leaves the store unasked. -/
  unsupported : report.answer = .error .unsupportedOperation → report.accesses = []
  /-- A request that passes the cache over leaves the store unasked, and is not answered from it. -/
  passedOver : PassesOver g.policy r → report.accesses = [] ∧ report.outcome? ≠ some .hit

/-- What one dispatch does to what the store has. -/
structure Footprint (r : Request) (report : Report)
    (before after : Fingerprint → Option (List UInt8)) : Prop where
  /-- An error leaves it as it was. -/
  failed : ∀ e, report.answer = .error e → after = before
  /-- So does an answer, unless it is a miss. -/
  served : ∀ a, report.answer = .ok a → a.cache ≠ .miss → after = before
  /-- Behind a miss the payload is under the fingerprint of the target, or the store has failed to
  take it and is as it was. -/
  missed : ∀ a, report.answer = .ok a → a.cache = .miss →
    (∃ e, .set (.ofUri r.uri) a.payload (.error e) ∈ report.accesses ∧ after = before) ∨
    after = Function.update before (.ofUri r.uri) (some a.payload)

/-! ## Calls -/

/-- A call that was made is the one that the request asks for. -/
lemma mem_call_iff {op args answer} (sel : select r = .ok op)
    (prep : Coercion.prepare op r = .ok args) (op' args') :
    (∃ answer', (⟨op', args', answer'⟩ : Backend.Exchange) ∈ [⟨op, args, answer⟩]) ↔
      select r = .ok op' ∧ Coercion.prepare op' r = .ok args' := by
  constructor
  · rintro ⟨answer', mem⟩
    cases List.mem_singleton.1 mem
    exact ⟨sel, prep⟩
  · rintro ⟨sel', prep'⟩
    rw [sel] at sel'
    cases sel'
    rw [prep] at prep'
    cases prep'
    exact ⟨answer, List.mem_singleton.2 rfl⟩

/-- A course has a call exactly for a request that selects an operation, has arguments, and was not
answered from the cache. -/
lemma Course.mem_calls_iff (course : Course g r w report w') (op args) :
    (∃ answer, ⟨op, args, answer⟩ ∈ report.calls) ↔
      (select r = .ok op ∧ Coercion.prepare op r = .ok args) ∧ report.outcome? ≠ some .hit := by
  obtain ⟨answer, calls, accesses, recorded⟩ := report
  cases course.sound with
  | unsupported sel => simp [sel]
  | hit => simp [Report.outcome?]
  | refused sel _ prep =>
    simp only [List.not_mem_nil, exists_false, false_iff, not_and]
    rintro ⟨sel', prep'⟩
    rw [sel] at sel'
    cases sel'
    rw [prep] at prep'
    cases prep'
  | failed sel _ prep =>
    exact (mem_call_iff sel prep op args).trans (and_iff_left (by simp [Report.outcome?])).symm
  | answered sel crossing prep =>
    have other := crossing.outcome_ne_hit
    exact (mem_call_iff sel prep op args).trans
      (and_iff_left (by simpa [Report.outcome?] using other)).symm
  | stored sel _ prep =>
    exact (mem_call_iff sel prep op args).trans (and_iff_left (by simp [Report.outcome?])).symm

/-! ## What is asked of the store -/

/-- A course is answered from the cache exactly when the store has given the payload. -/
lemma Course.hit_iff (course : Course g r w report w') (op payload) :
    report.answer = .ok ⟨op, payload, .hit⟩ ↔
      select r = .ok op ∧ .get (.ofUri r.uri) (.ok (some payload)) ∈ report.accesses := by
  refine Iff.trans ?_ course.sound.hit_iff
  rw [Stage.done.injEq]

/-- What the store was asked to take is the payload of a miss, under the key of its request. -/
lemma Course.miss_of_set_mem (course : Course g r w report w') {key payload told}
    (mem : .set key payload told ∈ report.accesses) :
    key = .ofUri r.uri ∧ ∃ op, report.answer = .ok ⟨op, payload, .miss⟩ := by
  obtain ⟨op, ended⟩ := course.sound.miss_of_set_mem mem
  exact ⟨course.sound.key_of_mem mem, op, Stage.done.inj ended⟩

/-- On the way past the cache, a request that has a key has the store asked for it. -/
lemma Crossing.accesses_of_keyed {enabled policy op key outcome accesses recorded k}
    (crossing : Crossing enabled policy op r key outcome accesses recorded)
    (keyed : cacheKey enabled policy op r = some k) : ∃ answer, accesses = [.get k answer] := by
  cases crossing with
  | missed keyed' =>
    cases keyed.symm.trans keyed'
    exact ⟨_, rfl⟩
  | bypassed keyless => cases keyed.symm.trans keyless
  | disabled disabled =>
    rw [disabled] at keyed
    cases keyed

/-- A request that has a key has the store asked for it first. -/
lemma Course.head?_of_keyed (course : Course g r w report w') {op key} (sel : select r = .ok op)
    (keyed : cacheKey g.cacheEnabled g.policy op r = some key) :
    ∃ answer, report.accesses.head? = some (.get key answer) := by
  obtain ⟨answer, calls, accesses, recorded⟩ := report
  cases course.sound with
  | unsupported sel' => cases sel.symm.trans sel'
  | hit sel' keyed' =>
    cases sel.symm.trans sel'
    cases keyed.symm.trans keyed'
    exact ⟨_, rfl⟩
  | refused sel' crossing | failed sel' crossing | answered sel' crossing
  | stored sel' crossing =>
    cases sel.symm.trans sel'
    obtain ⟨answer, rfl⟩ := crossing.accesses_of_keyed keyed
    exact ⟨answer, rfl⟩

/-- A request that has no key, whatever it selects, leaves the store unasked. -/
lemma Course.accesses_eq_nil (course : Course g r w report w')
    (keyless : ∀ op, select r = .ok op → cacheKey g.cacheEnabled g.policy op r = none) :
    report.accesses = [] := by
  have unasked {op key outcome accesses recorded} (sel : select r = .ok op)
      (crossing : Crossing g.cacheEnabled g.policy op r key outcome accesses recorded) :
      accesses = [] ∧ key = none := by
    cases crossing with
    | missed keyed => cases (keyless op sel).symm.trans keyed
    | bypassed | disabled => exact ⟨rfl, rfl⟩
  obtain ⟨answer, calls, accesses, recorded⟩ := report
  cases course.sound with
  | unsupported sel => rfl
  | hit sel keyed => cases (keyless _ sel).symm.trans keyed
  | refused sel crossing | failed sel crossing | answered sel crossing =>
    exact (unasked sel crossing).1
  | stored sel crossing => cases (unasked sel crossing).2

/-- Where the store is not asked, nothing is answered from the cache. -/
lemma Course.outcome_ne_hit (course : Course g r w report w') (unasked : report.accesses = []) :
    report.outcome? ≠ some .hit := by
  intro hit
  obtain ⟨answer, calls, accesses, recorded⟩ := report
  cases answer with
  | error e => cases hit
  | ok a =>
    obtain ⟨op, payload, cache⟩ := a
    cases Option.some.inj hit
    have given := ((course.hit_iff op payload).1 rfl).2
    rw [unasked] at given
    cases given

/-- A request that passes the cache over has no key. -/
lemma PassesOver.cacheKey_eq_none {enabled policy op} (passes : PassesOver policy r)
    (sel : select r = .ok op) : cacheKey enabled policy op r = none := by
  by_contra keyed
  obtain ⟨key, keyed⟩ := Option.ne_none_iff_exists'.1 keyed
  obtain ⟨-, applies, bare, -⟩ := cacheKey_eq_some.1 keyed
  obtain body | ⟨op', sel', mutates, bypass⟩ := passes
  · rw [bare] at body
    cases body
  · rw [sel] at sel'
    cases sel'
    simp [Policy.appliesTo, mutates, bypass] at applies

/-- A dispatch that fails for want of an operation has selected none. -/
lemma Course.select_of_unsupported (course : Course g r w report w')
    (unsupported : report.answer = .error .unsupportedOperation) :
    select r = .error .unsupportedOperation := by
  obtain ⟨answer, calls, accesses, recorded⟩ := report
  cases course.sound with
  | unsupported sel => exact sel
  | _ => cases unsupported

/-! ## What the store has -/

section contents

variable (contents : ∀ p, g.cache = some p → Cache.Contents p has)
include contents

/-- Every course that does not end with a miss leaves what the store has. -/
lemma Course.has_eq (course : Course g r w report w') (other : report.outcome? ≠ some .miss) :
    has w'.store = has w.store := by
  refine course.accessed.has_eq contents fun key payload told mem => other ?_
  obtain ⟨-, op, answer⟩ := course.miss_of_set_mem mem
  simp only [Report.outcome?, answer]

/-- A course that ends with a miss has asked the store to take its payload, and unless that failed
the store has it. -/
lemma Course.has_of_miss {a} (course : Course g r w report w') (answer : report.answer = .ok a)
    (miss : a.cache = .miss) :
    (∃ e, .set (.ofUri r.uri) a.payload (.error e) ∈ report.accesses ∧
        has w'.store = has w.store) ∨
      has w'.store = Function.update (has w.store) (.ofUri r.uri) (some a.payload) := by
  obtain ⟨result, calls, accesses, recorded⟩ := report
  have accessed := course.accessed
  cases course.sound with
  | unsupported | refused | failed => cases answer
  | hit =>
    cases answer
    cases miss
  | answered _ crossing =>
    cases answer
    exact absurd miss crossing.outcome_ne_miss
  | @stored _ _ _ _ _ _ _ _ told _ crossing =>
    cases answer
    obtain ⟨-, -, -, rfl⟩ := cacheKey_eq_some.1 crossing.keyed
    obtain ⟨s₁, first, last⟩ := accessed.split
    obtain ⟨p, cached, put⟩ := last.set_of_singleton
    rw [← first.has_eq contents fun _ _ _ => crossing.set_not_mem]
    cases told with
    | ok => exact .inr ((contents p cached).has_of_taken put)
    | error e =>
      -- The store may have taken the payload all the same.
      refine ((contents p cached).has_of_set put).imp_left fun same => ⟨e, ?_, same⟩
      exact List.mem_append_right _ (List.mem_singleton.2 rfl)

end contents

/-- A dispatch asks of the backend and of the store just what `Effect` says, whatever they do, and
they answer and come to their states by what is asked of them. Where gets and sets do to a store
what they are for, what it has changes no more than `Footprint` says. -/
theorem Gateway.dispatch_effect (g : Gateway β σ) (r : Request) (w : World β σ) :
    ((g.report r w).1.answer, (g.report r w).2) = g.dispatch r w ∧
    (g.backend.Follows (g.report r w).1.calls w.backend (g.report r w).2.backend ∧
      Cache.Follows g.cache (g.report r w).1.accesses w.store (g.report r w).2.store) ∧
    Effect g r (g.report r w).1 ∧
    ∀ has : σ → Fingerprint → Option (List UInt8),
      (∀ p, g.cache = some p → Cache.Contents p has) →
      Footprint r (g.report r w).1 (has w.store) (has (g.report r w).2.store) := by
  have course := g.report_course r w
  refine ⟨g.report_eq_dispatch r w, ⟨course.called, course.accessed⟩, ?_, ?_⟩
  · constructor
    case once => exact course.sound.calls_length_le
    case called => exact course.mem_calls_iff
    case hit => exact course.hit_iff
    case keyed => exact fun _ mem => course.sound.key_of_mem mem
    case asked => exact fun _ _ sel keyed => course.head?_of_keyed sel keyed
    case wrote => exact fun _ _ _ mem => course.miss_of_set_mem mem
    case unsupported =>
      intro unsupported
      refine course.accesses_eq_nil fun op sel => ?_
      cases sel.symm.trans (course.select_of_unsupported unsupported)
    case passedOver =>
      intro passes
      have unasked := course.accesses_eq_nil fun op sel => passes.cacheKey_eq_none sel
      exact ⟨unasked, course.outcome_ne_hit unasked⟩
  · intro has contents
    constructor
    case failed =>
      intro e failed
      exact course.has_eq contents (by simp [Report.outcome?, failed])
    case served =>
      intro a answer other
      exact course.has_eq contents (by simpa [Report.outcome?, answer] using other)
    case missed =>
      intro a answer miss
      exact course.has_of_miss contents answer miss

/-- A store in memory that holds octets of its own and refuses every set. Under the fingerprint of
the target they are the answer, and no call is made; under another they stay. -/
theorem Gateway.dispatch_effect_seeded :
    let g : Gateway Nat Cache.Memory :=
      ⟨⟨fun op _ n => (.ok op.function, n + 1)⟩, some (Cache.Memory.provider false true), .standard⟩
    let r := Request.ofTarget "/a?intersects" none
    let seeded (uri : String) : World Nat Cache.Memory := ⟨0, ⟨[(.ofUri uri, [0xFF])]⟩, []⟩
    let own := (g.report r (seeded "/a?intersects")).1
    let other := g.report r (seeded "/b?intersects")
    (∀ p, g.cache = some p → Cache.Contents p Cache.Memory.get?) ∧
    (Effect g r own ∧ own.answer = .ok ⟨.intersects, [0xFF], .hit⟩ ∧ own.calls = []) ∧
    Effect g r other.1 ∧
      Footprint r other.1 (seeded "/b?intersects").store.get? other.2.store.get? := by
  intro g r seeded own other
  have contents : ∀ p, g.cache = some p → Cache.Contents p Cache.Memory.get? := by
    intro p cached
    cases cached
    exact Cache.Memory.contents false true
  obtain ⟨-, ⟨-, accessed⟩, effect, -⟩ := Gateway.dispatch_effect g r (seeded "/a?intersects")
  obtain ⟨-, -, other_effect, footprint⟩ := Gateway.dispatch_effect g r (seeded "/b?intersects")
  have selected : select r = .ok .intersects := by decide +kernel
  have uri : r.uri = "/a?intersects" := by decide +kernel
  have keyed : cacheKey g.cacheEnabled g.policy .intersects r = some (.ofUri "/a?intersects") :=
    cacheKey_eq_some.2 ⟨rfl, rfl, by decide +kernel, by rw [uri]⟩
  -- The store is asked first for what it has, and that is what was put there.
  obtain ⟨answer, first⟩ := effect.asked _ _ selected keyed
  obtain ⟨rest, asked⟩ := List.head?_eq_some_iff.1 first
  have gives {key : Fingerprint} {m m' : Cache.Memory} (held : m.get? key = some [0xFF])
      (accessed : Cache.Follows g.cache (.get key answer :: rest) m m') :
      answer = .ok (some [0xFF]) := by
    cases accessed with
    | get cached got =>
      cases cached
      rw [← held]
      exact (congrArg Prod.fst got).symm
  have given := gives List.lookup_cons_self (asked ▸ accessed)
  have hit := (effect.hit .intersects [0xFF]).2
    ⟨selected, by rw [uri, asked, given]; exact List.mem_cons_self⟩
  have uncalled : own.calls = [] := by
    refine List.eq_nil_iff_forall_not_mem.2 fun call mem => ?_
    exact ((effect.called _ _).1 ⟨_, mem⟩).2 (by rw [Report.outcome?, hit])
  exact ⟨contents, ⟨effect, hit, uncalled⟩, other_effect, footprint _ contents⟩

end MetadataGateway.Dispatch
