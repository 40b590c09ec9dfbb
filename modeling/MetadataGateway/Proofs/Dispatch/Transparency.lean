import MetadataGateway.Proofs.Cache.Honest
import MetadataGateway.Proofs.Dispatch.Course

/-!
# A cache changes no answer

Requests that are dispatched one after another through a cache are answered as without one, and
leave the backend in the same state. This takes a store that is honest and empty at first, targets
with distinct fingerprints, and a backend whose cacheable operations are repeatable: they answer by
their arguments alone and leave the state of the backend as it is. All other operations may do as
they like.

The two runs are kept together by `Mirrors`: what the store has taken under a fingerprint is what
the backend alone gives, in every state, for the target with that fingerprint. A hit is right
because a request without values in its body is determined by its target.
-/

namespace MetadataGateway

/-- A request without values in its body is the one that its target alone stands for. -/
lemma Request.ofTarget_eq_of_no_body_values {uri : String} {body : Option (List UInt8)}
    (bare : (ofTarget uri body).hasBodyValues = false) : ofTarget uri body = ofTarget uri none := by
  have no_pairs : (body.map Text.formPairs).getD [] = [] := by simpa [ofTarget] using bare
  simp [ofTarget, no_pairs]

namespace Dispatch

variable {β σ : Type}

/-- What the backend alone makes of a request, and the state in which that leaves it. -/
def Gateway.direct (g : Gateway β σ) (r : Request) (s : β) :
    Except Failure (Operation × List UInt8) × β :=
  match select r with
  | .error e => (.error e, s)
  | .ok op =>
    match Coercion.prepare op r with
    | .error e => (.error (.coercion e), s)
    | .ok args =>
      match g.backend.call op args s with
      | (.error e, s) => (.error (.backend e), s)
      | (.ok text, s) => (.ok (op, Utf8.encodeString text), s)

/-- An answer without how the cache took part in it. -/
def Served.content (a : Served) : Operation × List UInt8 :=
  (a.operation, a.payload)

/-- A dispatch is answered with what the store has given for its key, or as the backend alone
answers it. -/
lemma Course.hit_or_direct {g : Gateway β σ} {r w report w'} (course : Course g r w report w') :
    (∃ op key payload p,
      select r = .ok op ∧
      cacheKey g.cacheEnabled g.policy op r = some key ∧
      g.cache = some p ∧ p.get key w.store = (.ok (some payload), w'.store) ∧
      report.answer = .ok ⟨op, payload, .hit⟩ ∧ w'.backend = w.backend) ∨
    (report.answer.map Served.content, w'.backend) = g.direct r w.backend := by
  obtain ⟨answer, calls, accesses, recorded⟩ := report
  obtain ⟨sound, called, accessed⟩ := course
  cases sound with
  | unsupported sel =>
    rw [called.eq_of_nil]
    exact .inr (by simp [Gateway.direct, sel, Except.map])
  | hit sel keyed =>
    obtain ⟨p, cached, got⟩ := accessed.get_of_singleton
    exact .inl ⟨_, _, _, p, sel, keyed, cached, got, rfl, called.eq_of_nil⟩
  | refused sel _ prep =>
    rw [called.eq_of_nil]
    exact .inr (by simp [Gateway.direct, sel, prep, Except.map])
  | failed sel _ prep | answered sel _ prep | stored sel _ prep =>
    have made := called.call_of_singleton
    exact .inr (by simp [Gateway.direct, sel, prep, made, Except.map, Served.content])

/-- Every operation that the cache may stand in for answers by its arguments alone, and leaves the
backend as it is. -/
def Repeatable (b : Backend β) (policy : Policy) : Prop :=
  ∀ op ∈ Operation.table, policy.appliesTo op = true →
    ∃ answer : List Argument → Except Backend.Error String,
      ∀ args s, b.call op args s = (answer args, s)

/-- The gateway without its cache. -/
def Gateway.uncached (g : Gateway β σ) : Gateway β σ :=
  { g with cache := none }

/-- A request that is answered selects the operation of the answer. -/
lemma Gateway.select_of_direct {g : Gateway β σ} {r s op payload s'}
    (answered : g.direct r s = (.ok (op, payload), s')) : select r = .ok op := by
  unfold Gateway.direct at answered
  cases sel : select r with
  | error e => simp [sel] at answered
  | ok op' =>
    cases prep : Coercion.prepare op' r with
    | error e => simp [sel, prep] at answered
    | ok args =>
      rcases called : g.backend.call op' args s with ⟨_ | text, s''⟩
      · simp [sel, prep, called] at answered
      · simp only [sel, prep, called, Prod.mk.injEq, Except.ok.injEq] at answered
        rw [answered.1.1]

/-- A dispatch without a cache is answered by the backend alone. -/
lemma Gateway.dispatch_uncached (g : Gateway β σ) (r : Request) (w : World β σ) :
    ((g.uncached.dispatch r w).1.map Served.content, (g.uncached.dispatch r w).2.backend)
      = g.direct r w.backend := by
  rw [← report_eq_dispatch]
  obtain ⟨op, key, _, p, _, _, cached, _⟩ | direct := (g.uncached.report_course r w).hit_or_direct
  · cases cached
  · exact direct

/-- A payload is what the backend alone gives for a target, whatever its state. -/
def Kept (g : Gateway β σ) (uri : String) (payload : List UInt8) : Prop :=
  ∃ op, ∀ s, g.direct (.ofTarget uri none) s = (.ok (op, payload), s)

/-- The store comes from an empty one and has taken only payloads that are right for their keys. -/
structure Mirrors (g : Gateway β σ) (p : Cache.Provider σ) (empty : σ) (uris : List String)
    (store : σ) (taken : Fingerprint → Option (List UInt8)) : Prop where
  history : Cache.History p empty store taken
  kept : ∀ {key payload}, taken key = some payload →
    ∃ uri ∈ uris, key = .ofUri uri ∧ Kept g uri payload

/-- An answer that goes to the cache is right for the target of its request. -/
lemma kept_of_called {g : Gateway β σ} {uri body op args s text s'}
    (repeatable : Repeatable g.backend g.policy)
    (sel : select (.ofTarget uri body) = .ok op)
    (applies : g.policy.appliesTo op = true)
    (bare : (Request.ofTarget uri body).hasBodyValues = false)
    (prep : Coercion.prepare op (.ofTarget uri body) = .ok args)
    (called : g.backend.call op args s = (.ok text, s')) :
    Kept g uri (Utf8.encodeString text) := by
  obtain ⟨answer, answers⟩ := repeatable op (mem_table_of_select sel) applies
  have answered : answer args = .ok text := by
    rw [answers args s] at called
    exact congrArg Prod.fst called
  rw [Request.ofTarget_eq_of_no_body_values bare] at sel prep
  refine ⟨op, fun t => ?_⟩
  simp [Gateway.direct, sel, prep, answers args t, answered]

/-- A get keeps the store right. -/
lemma Mirrors.get {g : Gateway β σ} {p empty uris s taken key answer s'}
    (mirrors : Mirrors g p empty uris s taken) (got : p.get key s = (answer, s')) :
    Mirrors g p empty uris s' taken where
  history := by
    have history := mirrors.history.get key
    rw [got] at history
    exact history
  kept := mirrors.kept

/-- A set of a payload that is right for its target keeps the store right, whether or not it
fails. -/
lemma Mirrors.set {g : Gateway β σ} {p empty uris s taken uri payload answer s'}
    (mirrors : Mirrors g p empty uris s taken) (mem : uri ∈ uris) (kept : Kept g uri payload)
    (put : p.set (.ofUri uri) payload s = (answer, s')) :
    ∃ taken', Mirrors g p empty uris s' taken' := by
  cases answer with
  | error e => exact ⟨taken, mirrors.history.refused put, mirrors.kept⟩
  | ok =>
    refine ⟨_, mirrors.history.set put, fun {key payload} took => ?_⟩
    rw [Function.update_apply] at took
    split at took
    · rename_i here
      cases took
      exact ⟨uri, mem, here, kept⟩
    · exact mirrors.kept took

/-- A dispatch keeps the store right. -/
lemma Course.mirrors {g : Gateway β σ} {p empty uris taken uri body w report w'}
    (cached : g.cache = some p) (repeatable : Repeatable g.backend g.policy) (mem : uri ∈ uris)
    (mirrors : Mirrors g p empty uris w.store taken)
    (course : Course g (.ofTarget uri body) w report w') :
    ∃ taken', Mirrors g p empty uris w'.store taken' := by
  obtain ⟨answer, calls, accesses, recorded⟩ := report
  obtain ⟨sound, called, accessed⟩ := course
  have looked {key answer s'} (accessed : Cache.Follows g.cache [.get key answer] w.store s') :
      Mirrors g p empty uris s' taken := by
    obtain ⟨q, there, got⟩ := accessed.get_of_singleton
    cases cached.symm.trans there
    exact mirrors.get got
  have past {op key outcome accesses recorded s'}
      (crossing : Crossing g.cacheEnabled g.policy op (.ofTarget uri body) key outcome accesses
        recorded)
      (accessed : Cache.Follows g.cache accesses w.store s') :
      Mirrors g p empty uris s' taken := by
    cases crossing with
    | missed => exact looked accessed
    | bypassed | disabled =>
      rw [accessed.eq_of_nil]
      exact mirrors
  cases sound with
  | unsupported =>
    rw [accessed.eq_of_nil]
    exact ⟨_, mirrors⟩
  | hit => exact ⟨_, looked accessed⟩
  | refused _ crossing | failed _ crossing | answered _ crossing =>
    exact ⟨_, past crossing accessed⟩
  | stored sel crossing prep =>
    obtain ⟨-, applies, bare, rfl⟩ := cacheKey_eq_some.1 crossing.keyed
    obtain ⟨s₁, first, last⟩ := accessed.split
    obtain ⟨q, there, put⟩ := last.set_of_singleton
    cases cached.symm.trans there
    -- Only here is something put: the payload of the call, which any later call would give again.
    have kept := kept_of_called repeatable sel applies bare prep called.call_of_singleton
    exact (past crossing first).set mem kept put

/-- A dispatch through a store that is right is answered as by the backend alone. -/
lemma Course.direct {g : Gateway β σ} {p empty uris taken uri body w report w'}
    (cached : g.cache = some p) (honest : Cache.Honest p empty) (mem : uri ∈ uris)
    (distinct : ∀ a ∈ uris, ∀ b ∈ uris, Fingerprint.ofUri a = .ofUri b → a = b)
    (mirrors : Mirrors g p empty uris w.store taken)
    (course : Course g (.ofTarget uri body) w report w') :
    (report.answer.map Served.content, w'.backend) = g.direct (.ofTarget uri body) w.backend := by
  obtain ⟨op, key, payload, _, sel, keyed, there, got, answer, backend⟩ | direct :=
    course.hit_or_direct
  · cases cached.symm.trans there
    obtain ⟨-, -, bare, rfl⟩ := cacheKey_eq_some.1 keyed
    have took := honest mirrors.history got
    obtain ⟨uri', mem', same, op', kept⟩ := mirrors.kept took
    obtain rfl : uri = uri' := distinct uri mem uri' mem' same
    rw [← Request.ofTarget_eq_of_no_body_values bare] at kept
    -- Both runs select by the request alone.
    have same_op : op = op' := by
      have sel' := Gateway.select_of_direct (kept w.backend)
      rw [sel] at sel'
      exact Except.ok.inj sel'
    rw [kept, answer, backend, same_op]
    rfl
  · exact direct

/-- Requests come out of a cached run as out of a run without a cache, if their targets are among
those whose fingerprints are distinct. -/
lemma Gateway.dispatchAll_mirrors {g : Gateway β σ} {p empty uris}
    (cached : g.cache = some p) (honest : Cache.Honest p empty)
    (repeatable : Repeatable g.backend g.policy)
    (distinct : ∀ a ∈ uris, ∀ b ∈ uris, Fingerprint.ofUri a = .ofUri b → a = b)
    (requests : List (String × Option (List UInt8))) (among : ∀ t ∈ requests, t.1 ∈ uris)
    {w v : World β σ} {taken} (mirrors : Mirrors g p empty uris w.store taken)
    (same : w.backend = v.backend) :
    (g.dispatchAll (requests.map fun t => .ofTarget t.1 t.2) w).1.map (Except.map Served.content)
        = (g.uncached.dispatchAll (requests.map fun t => .ofTarget t.1 t.2) v).1.map
            (Except.map Served.content) ∧
      (g.dispatchAll (requests.map fun t => .ofTarget t.1 t.2) w).2.backend
        = (g.uncached.dispatchAll (requests.map fun t => .ofTarget t.1 t.2) v).2.backend := by
  induction requests generalizing w v taken with
  | nil => exact ⟨rfl, same⟩
  | cons t rest ih =>
    obtain ⟨uri, body⟩ := t
    have mem : uri ∈ uris := among (uri, body) List.mem_cons_self
    have course := g.report_course (.ofTarget uri body) w
    have direct := course.direct cached honest mem distinct mirrors
    obtain ⟨taken', mirrors'⟩ := course.mirrors cached repeatable mem mirrors
    obtain ⟨same_answer, behind⟩ := Prod.ext_iff.1 (g.report_eq_dispatch (.ofTarget uri body) w)
    dsimp only at same_answer behind
    rw [behind] at mirrors'
    rw [same_answer, behind, same, ← g.dispatch_uncached (.ofTarget uri body) v,
      Prod.mk.injEq] at direct
    obtain ⟨answers, backend⟩ :=
      ih (fun t here => among t (List.mem_cons_of_mem _ here)) mirrors' direct.2
    simp only [List.map_cons, Gateway.dispatchAll, oneByOne_cons] at answers backend ⊢
    exact ⟨by rw [direct.1, answers], backend⟩

/-- With an honest store that is empty at first, requests that are dispatched one after another
select the same operations, get the same payloads or errors, and leave the backend in the same state
with the cache and without it. -/
theorem Gateway.dispatchAll_transparent (backend : Backend β) (policy : Policy)
    (p : Cache.Provider σ) (w : World β σ) (requests : List (String × Option (List UInt8)))
    (honest : Cache.Honest p w.store) (repeatable : Repeatable backend policy)
    (distinct : ∀ a ∈ requests, ∀ b ∈ requests,
      Fingerprint.ofUri a.1 = .ofUri b.1 → a.1 = b.1) :
    let rs := requests.map fun t => Request.ofTarget t.1 t.2
    let cached : Gateway β σ := ⟨backend, some p, policy⟩
    let disabled : Gateway β σ := ⟨backend, none, policy⟩
    (cached.dispatchAll rs w).1.map (Except.map Served.content)
        = (disabled.dispatchAll rs w).1.map (Except.map Served.content) ∧
      (cached.dispatchAll rs w).2.backend = (disabled.dispatchAll rs w).2.backend := by
  intro rs cached disabled
  have start : Mirrors cached p w.store (requests.map Prod.fst) w.store fun _ => none :=
    ⟨.start, by simp⟩
  have distinct' : ∀ a ∈ requests.map Prod.fst, ∀ b ∈ requests.map Prod.fst,
      Fingerprint.ofUri a = .ofUri b → a = b := by
    intro a ha b hb same
    obtain ⟨t, ht, rfl⟩ := List.mem_map.1 ha
    obtain ⟨u, hu, rfl⟩ := List.mem_map.1 hb
    exact distinct t ht u hu same
  have among : ∀ t ∈ requests, t.1 ∈ requests.map Prod.fst := fun t here =>
    List.mem_map_of_mem here
  exact Gateway.dispatchAll_mirrors (g := cached) (w := w) (v := w) rfl honest repeatable distinct'
    requests among start rfl

/-- A backend that counts how often its state is changed. -/
def counting : Backend Nat where
  call op _ n := if op.mutatesState then (.ok (toString n), n + 1) else (.ok op.flag, n)

/-- An operation of the counting backend that the standard policy lets through changes nothing. -/
lemma repeatable_counting : Repeatable counting .standard := by
  intro op _ applies
  have reads : op.mutatesState = false := by simpa [Policy.appliesTo, Policy.standard] using applies
  exact ⟨fun _ => .ok op.flag, fun args s => by simp [counting, reads]⟩

/-- A target that is asked for again behind a change, with a store in memory. -/
theorem Gateway.dispatchAll_transparent_counting :
    let requests := [("/a?extents", none), ("/a?put_ows_cache&value=1", none), ("/a?extents", none)]
    let w : World Nat Cache.Memory := ⟨0, .empty, []⟩
    let p := Cache.Memory.provider false false
    (Cache.Honest p w.store ∧ Repeatable counting .standard ∧
      ∀ a ∈ requests, ∀ b ∈ requests, Fingerprint.ofUri a.1 = .ofUri b.1 → a.1 = b.1) ∧
    let rs := requests.map fun t => Request.ofTarget t.1 t.2
    let cached : Gateway Nat Cache.Memory := ⟨counting, some p, .standard⟩
    let disabled : Gateway Nat Cache.Memory := ⟨counting, none, .standard⟩
    (cached.dispatchAll rs w).1.map (Except.map Served.content)
        = (disabled.dispatchAll rs w).1.map (Except.map Served.content) ∧
      (cached.dispatchAll rs w).2.backend = (disabled.dispatchAll rs w).2.backend := by
  intro requests w p
  have distinct : ∀ a ∈ requests, ∀ b ∈ requests,
      Fingerprint.ofUri a.1 = .ofUri b.1 → a.1 = b.1 := by decide +kernel
  have honest : Cache.Honest p w.store := Cache.Memory.honest false false
  exact ⟨⟨honest, repeatable_counting, distinct⟩,
    Gateway.dispatchAll_transparent counting .standard p w requests honest repeatable_counting
      distinct⟩

end Dispatch

end MetadataGateway
