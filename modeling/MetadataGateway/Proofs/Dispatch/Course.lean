import MetadataGateway.Proofs.Dispatch.Observation

/-!
# The course of a dispatch

A thread is a dispatch with all that it has asked and recorded so far. `Thread.Sound` has one
constructor for each place that it can be in, with what must have been asked and recorded by then,
whatever the backend and the store have answered: three waits and six ends. The places behind a
lookup without result, or behind no lookup at all, share `Crossing`. A turn keeps a thread sound
(`Thread.Sound.turn`), whoever else has used the backend and the store in between.

A dispatch that is left alone is a thread that has all its turns. So its report is that of a sound
thread at its end, and the backend and the store have followed its logs (`Gateway.report_course`).
-/

namespace MetadataGateway.Dispatch

variable {β σ : Type}

/-- A dispatch with what it has done so far. -/
structure Thread where
  request : Request
  stage : Stage
  calls : List Backend.Exchange
  accesses : List Cache.Access
  recorded : Journal

/-- The dispatch of a request as it begins. -/
def Gateway.arrival (g : Gateway β σ) (r : Request) : Thread :=
  match select r with
  | .ok op =>
    let (stage, recorded) := Stage.start g.cacheEnabled g.policy op r
    ⟨r, stage, [], [], recorded⟩
  | .error e => ⟨r, .done (.error e), [], [], []⟩

/-- One turn of a dispatch: it is taken behind its next wait, and goes on with its logs. -/
def Gateway.turn (g : Gateway β σ) (t : Thread) (w : World β σ) : Thread × World β σ :=
  let (stage, seen) := g.watched.advance t.stage ⟨(w.backend, t.calls), (w.store, t.accesses), []⟩
  (⟨t.request, stage, seen.backend.2, seen.store.2, t.recorded ++ seen.journal⟩,
    seen.unwatched w.journal)

/-- A dispatch in a watched world, with what the logs and the journal of that world have. -/
def World.thread (w : World (β × List Backend.Exchange) (σ × List Cache.Access)) (r : Request)
    (stage : Stage) : Thread :=
  ⟨r, stage, w.backend.2, w.store.2, w.journal⟩

/-- A request is past the cache: the key under which its answer is to be kept, the outcome that a
success will have, what has been asked of the store, and what has been recorded. -/
inductive Crossing (enabled : Bool) (policy : Policy) (op : Operation) (r : Request) :
    Option Fingerprint → Outcome → List Cache.Access → Journal → Prop where
  | missed {key answer} :
    cacheKey enabled policy op r = some key →
    Cache.found answer = none →
    Crossing enabled policy op r (some key) .miss [.get key answer]
      [.cache (Cache.lookupEvent answer)]
  | bypassed :
    cacheKey enabled policy op r = none →
    enabled = true →
    Crossing enabled policy op r none .bypass [] [.cache .bypass]
  | disabled :
    enabled = false →
    Crossing enabled policy op r none .disabled [] []

/-- A thread has asked and recorded what it must have by the time it is in its stage. -/
inductive Thread.Sound (enabled : Bool) (policy : Policy) : Thread → Prop where
  | unsupported {r} :
    select r = .error .unsupportedOperation →
    Sound enabled policy ⟨r, .done (.error .unsupportedOperation), [], [], []⟩
  | lookup {r op key} :
    select r = .ok op →
    cacheKey enabled policy op r = some key →
    Sound enabled policy ⟨r, .lookup op r key, [], [], []⟩
  | hit {r op key payload} :
    select r = .ok op →
    cacheKey enabled policy op r = some key →
    Sound enabled policy
      ⟨r, .done (.ok ⟨op, payload, .hit⟩), [], [.get key (.ok (some payload))], [.cache .hit]⟩
  | refused {r op key outcome accesses recorded e} :
    select r = .ok op →
    Crossing enabled policy op r key outcome accesses recorded →
    Coercion.prepare op r = .error e →
    Sound enabled policy ⟨r, .done (.error (.coercion e)), [], accesses, recorded⟩
  | call {r op key outcome accesses recorded args} :
    select r = .ok op →
    Crossing enabled policy op r key outcome accesses recorded →
    Coercion.prepare op r = .ok args →
    Sound enabled policy ⟨r, .call op r key outcome args, [], accesses, recorded⟩
  | failed {r op key outcome accesses recorded args e} :
    select r = .ok op →
    Crossing enabled policy op r key outcome accesses recorded →
    Coercion.prepare op r = .ok args →
    Sound enabled policy
      ⟨r, .done (.error (.backend e)), [⟨op, args, .error e⟩], accesses,
        recorded ++ [.warning (.backendFailed op.flag r.gpath e.message), .backendError op.flag]⟩
  | answered {r op outcome accesses recorded args text} :
    select r = .ok op →
    Crossing enabled policy op r none outcome accesses recorded →
    Coercion.prepare op r = .ok args →
    Sound enabled policy
      ⟨r, .done (.ok ⟨op, Utf8.encodeString text, outcome⟩), [⟨op, args, .ok text⟩], accesses,
        recorded⟩
  | store {r op key outcome accesses recorded args text} :
    select r = .ok op →
    Crossing enabled policy op r (some key) outcome accesses recorded →
    Coercion.prepare op r = .ok args →
    Sound enabled policy
      ⟨r, .store op key (Utf8.encodeString text), [⟨op, args, .ok text⟩], accesses, recorded⟩
  | stored {r op key outcome accesses recorded args text answer} :
    select r = .ok op →
    Crossing enabled policy op r (some key) outcome accesses recorded →
    Coercion.prepare op r = .ok args →
    Sound enabled policy
      ⟨r, .done (.ok ⟨op, Utf8.encodeString text, .miss⟩), [⟨op, args, .ok text⟩],
        accesses ++ [.set key (Utf8.encodeString text) answer], recorded ++ storeEvents answer⟩

/-! ## What a turn keeps -/

section turn

variable {enabled : Bool} {policy : Policy} {op : Operation} {r : Request} {g : Gateway β σ}
  {t : Thread}

/-- A request that is past the cache calls the backend or is refused. -/
lemma Crossing.prepared {key outcome accesses recorded} (sel : select r = .ok op)
    (crossing : Crossing enabled policy op r key outcome accesses recorded) :
    Thread.Sound enabled policy ⟨r, Stage.prepared op r key outcome, [], accesses, recorded⟩ := by
  unfold Stage.prepared
  cases prep : Coercion.prepare op r with
  | ok args => exact .call sel crossing prep
  | error e => exact .refused sel crossing prep

/-- A dispatch begins as a sound thread. -/
lemma Gateway.arrival_sound (g : Gateway β σ) (r : Request) :
    (g.arrival r).Sound g.cacheEnabled g.policy := by
  unfold arrival
  cases sel : select r with
  | error e =>
    obtain rfl := select_eq_error sel
    exact .unsupported sel
  | ok op =>
    simp only [Stage.start]
    cases keyed : cacheKey g.cacheEnabled g.policy op r with
    | some key => exact .lookup sel keyed
    | none =>
      cases enabled : g.cacheEnabled with
      | true => exact (Crossing.bypassed (enabled ▸ keyed) rfl).prepared sel
      | false => exact (Crossing.disabled rfl).prepared sel

/-- A turn keeps a thread sound, whatever the backend and the store do. -/
lemma Thread.Sound.turn (sound : t.Sound g.cacheEnabled g.policy) (w : World β σ) :
    (g.turn t w).1.Sound g.cacheEnabled g.policy := by
  unfold Gateway.turn
  cases sound with
  | @lookup r op key sel keyed =>
    obtain ⟨p, cached⟩ := exists_provider_of_cacheKey keyed
    simp only [Gateway.advance, lookup_watched cached, List.nil_append]
    cases here : Cache.found (p.get key w.store).1 with
    | none => exact (Crossing.missed keyed here).prepared sel
    | some payload =>
      rw [Cache.ok_of_found here]
      exact .hit sel keyed
  | @call r op key outcome _ _ args sel crossing prep =>
    simp only [Gateway.advance, call_watched, List.nil_append]
    cases (g.backend.call op args w.backend).1 with
    | error e => exact .failed sel crossing prep
    | ok text =>
      cases key with
      | none => simpa only [Stage.afterCall, List.append_nil] using .answered sel crossing prep
      | some key => simpa only [Stage.afterCall, List.append_nil] using .store sel crossing prep
  | store sel crossing prep =>
    cases crossing with
    | missed keyed absent =>
      obtain ⟨p, cached⟩ := exists_provider_of_cacheKey keyed
      simp only [Gateway.advance, store_watched cached, List.nil_append]
      exact .stored sel (.missed keyed absent) prep
  -- Behind its end a dispatch does nothing.
  | unsupported sel => exact .unsupported sel
  | hit sel keyed => exact .hit sel keyed
  | refused sel crossing prep =>
    simpa only [Gateway.advance, List.append_nil] using .refused sel crossing prep
  | failed sel crossing prep =>
    simpa only [Gateway.advance, List.append_nil] using .failed sel crossing prep
  | answered sel crossing prep =>
    simpa only [Gateway.advance, List.append_nil] using .answered sel crossing prep
  | stored sel crossing prep =>
    simpa only [Gateway.advance, List.append_nil] using .stored sel crossing prep

/-- A turn that is watched is the step that is not. -/
lemma Gateway.turn_eq_advance (g : Gateway β σ) (t : Thread) (w : World β σ) :
    ((g.turn t w).1.stage, (g.turn t w).2) = g.advance t.stage w := by
  have same := g.watched_advance w.journal t.stage
    ⟨(w.backend, t.calls), (w.store, t.accesses), []⟩
  have fresh : World.unwatched w.journal ⟨(w.backend, t.calls), (w.store, t.accesses), []⟩ = w := by
    rw [World.unwatched, List.append_nil]
  rw [fresh] at same
  exact same

/-- What a thread logs in a turn is what the store does in it. -/
lemma Gateway.accesses_turn (g : Gateway β σ) (t : Thread) (w : World β σ) :
    ∃ new, (g.turn t w).1.accesses = t.accesses ++ new ∧
      Cache.Follows g.cache new w.store (g.turn t w).2.store :=
  (since_advance g t.stage ⟨(w.backend, t.calls), (w.store, t.accesses), []⟩).accesses

/-- What a thread records in a turn goes into the journal. -/
lemma Gateway.journal_turn (g : Gateway β σ) (t : Thread) (w : World β σ) :
    ∃ new, (g.turn t w).1.recorded = t.recorded ++ new ∧
      (g.turn t w).2.journal = w.journal ++ new :=
  ⟨_, rfl, rfl⟩

end turn

/-! ## What a thread has asked -/

section crossing

variable {enabled : Bool} {policy : Policy} {op : Operation} {r : Request} {outcome : Outcome}
  {accesses : List Cache.Access} {recorded : Journal}

/-- A key under which an answer is to be kept is the one of the request. -/
lemma Crossing.keyed {key}
    (crossing : Crossing enabled policy op r (some key) outcome accesses recorded) :
    cacheKey enabled policy op r = some key := by
  cases crossing with
  | missed keyed => exact keyed

/-- A request that gets past the cache does not end with a hit. -/
lemma Crossing.outcome_ne_hit {key}
    (crossing : Crossing enabled policy op r key outcome accesses recorded) : outcome ≠ .hit := by
  cases crossing <;> exact nofun

/-- An answer that is kept nowhere is no miss. -/
lemma Crossing.outcome_ne_miss
    (crossing : Crossing enabled policy op r none outcome accesses recorded) :
    outcome ≠ .miss := by
  cases crossing <;> exact nofun

/-- On the way past the cache the store is asked for what it has under the key of the request, if
there is one, and has no payload there. -/
lemma Crossing.mem_accesses {key access}
    (crossing : Crossing enabled policy op r key outcome accesses recorded)
    (mem : access ∈ accesses) :
    ∃ answer, access = .get (.ofUri r.uri) answer ∧ Cache.found answer = none := by
  cases crossing with
  | missed keyed absent =>
    obtain ⟨-, -, -, rfl⟩ := cacheKey_eq_some.1 keyed
    exact ⟨_, List.mem_singleton.1 mem, absent⟩
  | bypassed | disabled => cases mem

/-- On the way past the cache the store gives no payload. -/
lemma Crossing.payload_not_mem {key written payload}
    (crossing : Crossing enabled policy op r key outcome accesses recorded) :
    .get written (.ok (some payload)) ∉ accesses := by
  intro mem
  obtain ⟨answer, same, absent⟩ := crossing.mem_accesses mem
  cases same
  cases absent

/-- On the way past the cache the store takes nothing. -/
lemma Crossing.set_not_mem {key written payload told}
    (crossing : Crossing enabled policy op r key outcome accesses recorded) :
    .set written payload told ∉ accesses := by
  intro mem
  obtain ⟨answer, same, -⟩ := crossing.mem_accesses mem
  cases same

end crossing

namespace Thread.Sound

variable {enabled : Bool} {policy : Policy} {op : Operation} {t : Thread}
  {payload : List UInt8}

/-- There is no second call. -/
lemma calls_length_le (sound : t.Sound enabled policy) : t.calls.length ≤ 1 := by
  cases sound with
  | unsupported | lookup | hit | refused | call => exact Nat.zero_le 1
  | failed | answered | store | stored => exact Nat.le_refl 1

/-- Whatever a thread asks of the store, it asks under the fingerprint of its target. -/
lemma key_of_mem (sound : t.Sound enabled policy) {access : Cache.Access}
    (mem : access ∈ t.accesses) : access.key = .ofUri t.request.uri := by
  cases sound with
  | unsupported | lookup => cases mem
  | hit _ keyed =>
    cases List.mem_singleton.1 mem
    exact (cacheKey_eq_some.1 keyed).2.2.2
  | refused _ crossing | call _ crossing | failed _ crossing | answered _ crossing
  | store _ crossing =>
    obtain ⟨answer, rfl, -⟩ := crossing.mem_accesses mem
    rfl
  | stored _ crossing =>
    obtain past | written := List.mem_append.1 mem
    · obtain ⟨answer, rfl, -⟩ := crossing.mem_accesses past
      rfl
    · cases List.mem_singleton.1 written
      exact (cacheKey_eq_some.1 crossing.keyed).2.2.2

/-- A thread has ended with a hit exactly when the store has given it the payload of its answer. -/
lemma hit_iff (sound : t.Sound enabled policy) :
    t.stage = .done (.ok ⟨op, payload, .hit⟩) ↔
      select t.request = .ok op ∧
        .get (.ofUri t.request.uri) (.ok (some payload)) ∈ t.accesses := by
  cases sound with
  | unsupported sel | lookup sel => simp
  | hit sel keyed =>
    obtain ⟨-, -, -, rfl⟩ := cacheKey_eq_some.1 keyed
    simp [sel, eq_comm]
  | refused _ crossing | call _ crossing | failed _ crossing | store _ crossing =>
    simp [crossing.payload_not_mem]
  | answered _ crossing => simp [crossing.payload_not_mem, crossing.outcome_ne_hit]
  | stored _ crossing => simp [crossing.payload_not_mem]

/-- What a thread has had the store take is the payload of the miss with which it has ended. -/
lemma miss_of_set_mem (sound : t.Sound enabled policy) {key told}
    (mem : .set key payload told ∈ t.accesses) :
    ∃ op, t.stage = .done (.ok ⟨op, payload, .miss⟩) := by
  cases sound with
  | unsupported | lookup => cases mem
  | hit => cases List.mem_singleton.1 mem
  | refused _ crossing | call _ crossing | failed _ crossing | answered _ crossing
  | store _ crossing => exact absurd mem crossing.set_not_mem
  | stored _ crossing =>
    obtain past | written := List.mem_append.1 mem
    · exact absurd past crossing.set_not_mem
    · cases List.mem_singleton.1 written
      exact ⟨_, rfl⟩

end Thread.Sound

/-! ## A dispatch left alone -/

/-- The report is of a sound thread at its end, and the backend and the store have followed its
logs. -/
structure Course (g : Gateway β σ) (r : Request) (w : World β σ) (report : Report)
    (w' : World β σ) : Prop where
  sound : Thread.Sound g.cacheEnabled g.policy
    ⟨r, .done report.answer, report.calls, report.accesses, report.recorded⟩
  called : g.backend.Follows report.calls w.backend w'.backend
  accessed : Cache.Follows g.cache report.accesses w.store w'.store

variable {g : Gateway β σ} {r : Request}

/-- A step in a watched world is a turn. -/
lemma thread_advance (stage : Stage) (w) :
    World.thread (g.watched.advance stage w).2 r (g.watched.advance stage w).1 =
      (g.turn (w.thread r stage) ⟨w.backend.1, w.store.1, []⟩).1 := by
  have behind := g.watched.advance_behind w.journal stage { w with journal := [] }
  rw [List.append_nil] at behind
  rw [behind]
  rfl

/-- All steps up to the end keep a thread sound. -/
lemma Thread.Sound.finish {stage : Stage}
    {w : World (β × List Backend.Exchange) (σ × List Cache.Access)}
    (sound : (w.thread r stage).Sound g.cacheEnabled g.policy) :
    (World.thread (g.watched.finish stage w).2 r
      (.done (g.watched.finish stage w).1)).Sound g.cacheEnabled g.policy := by
  have step (stage : Stage) (w) (sound : (World.thread w r stage).Sound g.cacheEnabled g.policy) :
      (World.thread (g.watched.advance stage w).2 r (g.watched.advance stage w).1).Sound
        g.cacheEnabled g.policy := by
    rw [thread_advance]
    exact sound.turn _
  fun_induction g.watched.finish stage w with
  | case1 => exact sound
  | case2 w op r key ih => exact ih (step _ w sound)
  | case3 w op r key outcome args ih => exact ih (step _ w sound)
  | case4 w op key payload ih => exact ih (step _ w sound)

/-- A dispatch begins in a fresh watched world. -/
lemma thread_start {op : Operation} (sel : select r = .ok op) (w : World β σ) :
    World.thread (g.watched.start op r ⟨(w.backend, []), (w.store, []), []⟩).2 r
      (g.watched.start op r ⟨(w.backend, []), (w.store, []), []⟩).1 = g.arrival r := by
  unfold Gateway.arrival Gateway.start World.thread
  simp only [sel, g.watched_cacheEnabled, List.nil_append]
  rfl

/-- Every dispatch takes a course. -/
theorem Gateway.report_course (g : Gateway β σ) (r : Request) (w : World β σ) :
    Course g r w (g.report r w).1 (g.report r w).2 := by
  have since := since_dispatch g r ⟨(w.backend, []), (w.store, []), []⟩
  constructor
  case sound =>
    have arrived := g.arrival_sound r
    unfold report dispatch
    cases sel : select r with
    | error e =>
      obtain rfl := select_eq_error sel
      exact .unsupported sel
    | ok op =>
      rw [← thread_start sel w] at arrived
      exact arrived.finish
  case called =>
    obtain ⟨new, grown, follows⟩ := since.calls
    have grown : (g.report r w).1.calls = new := grown
    rw [grown]
    exact follows
  case accessed =>
    obtain ⟨new, grown, follows⟩ := since.accesses
    have grown : (g.report r w).1.accesses = new := grown
    rw [grown]
    exact follows

end MetadataGateway.Dispatch
