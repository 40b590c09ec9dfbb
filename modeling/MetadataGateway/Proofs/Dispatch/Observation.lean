import MetadataGateway.Proofs.Dispatch.Basic
import MetadataGateway.Proofs.Logs

/-!
# Watching a dispatch

What a dispatch asks of the backend and of the store cannot be seen from its answer.
`Gateway.report` is what the logs of a watched gateway have of one dispatch, with its answer and
with what it has recorded. Watching changes nothing (`Gateway.report_eq_dispatch`), and the backend
and the store follow what is logged (`since_dispatch`).
-/

namespace MetadataGateway.Dispatch

variable {β σ : Type}

/-- A gateway of which the backend and the store keep logs. -/
def Gateway.watched (g : Gateway β σ) :
    Gateway (β × List Backend.Exchange) (σ × List Cache.Access) where
  backend := g.backend.watched
  cache := g.cache.map Cache.Provider.watched
  policy := g.policy

/-- A watched world without its logs, behind what has been recorded before it. -/
def World.unwatched (before : Journal)
    (w : World (β × List Backend.Exchange) (σ × List Cache.Access)) : World β σ :=
  ⟨w.backend.1, w.store.1, before ++ w.journal⟩

/-- What one dispatch has done. -/
structure Report where
  answer : Except Failure Served
  calls : List Backend.Exchange
  accesses : List Cache.Access
  recorded : Journal

/-- How the cache took part in the answer, if there is an answer. -/
def Report.outcome? (report : Report) : Option Outcome :=
  match report.answer with
  | .ok a => some a.cache
  | .error _ => none

/-- Dispatch a request, and report what it has done. -/
def Gateway.report (g : Gateway β σ) (r : Request) (w : World β σ) : Report × World β σ :=
  let (answer, seen) := g.watched.dispatch r ⟨(w.backend, []), (w.store, []), []⟩
  (⟨answer, seen.backend.2, seen.store.2, seen.journal⟩, seen.unwatched w.journal)

/-- Dispatch requests one after another, and report what each has done. -/
def Gateway.reportAll (g : Gateway β σ) : List Request → World β σ → List Report × World β σ :=
  oneByOne g.report

/-! ## Watching changes nothing -/

section unwatched

variable (g : Gateway β σ) (before : Journal)

/-- A watched gateway takes the same steps. -/
lemma Gateway.watched_advance (stage : Stage) (w) :
    Prod.map id (World.unwatched before) (g.watched.advance stage w) =
      g.advance stage (w.unwatched before) := by
  cases stage with
  | lookup op r key =>
    cases cached : g.cache with
    | none => simp [advance, watched, cached, Cache.lookup, World.unwatched]
    | some p =>
      simp [advance, watched, cached, Cache.lookup, Cache.Provider.watched, World.unwatched]
  | call op r key outcome args => simp [advance, watched, Backend.watched, World.unwatched]
  | store op key payload =>
    cases cached : g.cache with
    | none => simp [advance, watched, cached, Cache.store, World.unwatched]
    | some p =>
      rcases put : p.set key payload w.store.1 with ⟨_ | _, s⟩ <;>
        simp [advance, watched, cached, Cache.store, Cache.Provider.watched, World.unwatched, put]
  | done result => rfl

/-- A watched gateway comes to the same end. -/
lemma Gateway.watched_finish (stage : Stage) (w) :
    Prod.map id (World.unwatched before) (g.watched.finish stage w) =
      g.finish stage (w.unwatched before) := by
  have advanced := g.watched_advance before
  -- Every stage but the last is one watched step, and the rest is as the induction says.
  fun_induction g.watched.finish stage w with
  | case1 w result =>
    rw [finish_done]
    rfl
  | case2 w op r key ih =>
    rw [ih, finish, ← advanced]
    rfl
  | case3 w op r key outcome args ih =>
    rw [ih, finish, ← advanced]
    rfl
  | case4 w op key payload ih =>
    rw [ih, finish, ← advanced]
    rfl

/-- There is a watched store where there is a store. -/
lemma Gateway.watched_cacheEnabled : g.watched.cacheEnabled = g.cacheEnabled :=
  Option.isSome_map

/-- A watched gateway gives the same answer and leaves the same world. -/
lemma Gateway.watched_dispatch (r : Request) (w) :
    Prod.map id (World.unwatched before) (g.watched.dispatch r w) =
      g.dispatch r (w.unwatched before) := by
  have policy : g.watched.policy = g.policy := rfl
  unfold dispatch
  cases select r with
  | error e => rfl
  | ok op =>
    simp only [execute]
    rw [watched_finish]
    simp only [start, watched_cacheEnabled, policy, World.unwatched, List.append_assoc]

/-- With fresh logs behind its own journal, a world is what it was. -/
lemma World.unwatched_fresh (w : World β σ) :
    World.unwatched w.journal ⟨(w.backend, []), (w.store, []), []⟩ = w := by
  rw [unwatched, List.append_nil]

/-- A dispatch that is reported is the dispatch that is not. -/
theorem Gateway.report_eq_dispatch (r : Request) (w : World β σ) :
    ((g.report r w).1.answer, (g.report r w).2) = g.dispatch r w := by
  have same := g.watched_dispatch w.journal r ⟨(w.backend, []), (w.store, []), []⟩
  rw [w.unwatched_fresh] at same
  exact same

/-- The first of several requests is reported before the others. -/
lemma Gateway.reportAll_cons (r : Request) (rs : List Request) (w : World β σ) :
    g.reportAll (r :: rs) w =
      ((g.report r w).1 :: (g.reportAll rs (g.report r w).2).1,
        (g.reportAll rs (g.report r w).2).2) :=
  oneByOne_cons g.report r rs w

/-- Requests that are reported are answered as those that are not. -/
theorem Gateway.reportAll_eq_dispatchAll (rs : List Request) (w : World β σ) :
    ((g.reportAll rs w).1.map Report.answer, (g.reportAll rs w).2) = g.dispatchAll rs w :=
  oneByOne_map g.report_eq_dispatch rs w

end unwatched

/-! ## What is logged is what is done -/

/-- What a watched world has in its logs since an earlier one is what the backend and the store have
followed since. -/
structure Since (g : Gateway β σ)
    (w w' : World (β × List Backend.Exchange) (σ × List Cache.Access)) : Prop where
  calls : ∃ new, w'.backend.2 = w.backend.2 ++ new ∧ g.backend.Follows new w.backend.1 w'.backend.1
  accesses : ∃ new, w'.store.2 = w.store.2 ++ new ∧ Cache.Follows g.cache new w.store.1 w'.store.1

variable {g : Gateway β σ}

/-- Where nothing is done, nothing is logged. -/
lemma Since.refl {w w' : World (β × List Backend.Exchange) (σ × List Cache.Access)}
    (backend : w'.backend = w.backend) (store : w'.store = w.store) : Since g w w' where
  calls := ⟨[], by rw [backend, List.append_nil], backend ▸ .nil⟩
  accesses := ⟨[], by rw [store, List.append_nil], store ▸ .nil⟩

/-- What is logged in between is logged on the way. -/
lemma Since.trans {w w₁ w' : World (β × List Backend.Exchange) (σ × List Cache.Access)}
    (first : Since g w w₁) (others : Since g w₁ w') : Since g w w' where
  calls := by
    obtain ⟨new, grown, follows⟩ := first.calls
    obtain ⟨more, grown', follows'⟩ := others.calls
    exact ⟨new ++ more, by rw [grown', grown, List.append_assoc], follows.append follows'⟩
  accesses := by
    obtain ⟨new, grown, follows⟩ := first.accesses
    obtain ⟨more, grown', follows'⟩ := others.accesses
    exact ⟨new ++ more, by rw [grown', grown, List.append_assoc], follows.append follows'⟩

section step

variable {p : Cache.Provider σ}

/-- A watched lookup is logged with what the store has answered. -/
lemma lookup_watched (cached : g.cache = some p) (key s log) :
    Cache.lookup g.watched.cache key (s, log) =
      (Cache.found (p.get key s).1, [.cache (Cache.lookupEvent (p.get key s).1)],
        (p.get key s).2, log ++ [.get key (p.get key s).1]) := by
  simp [Gateway.watched, cached, Cache.lookup, Cache.Provider.watched]

/-- What a store that was asked to take a payload is recorded as. -/
def storeEvents : Except Cache.Error Unit → Journal
  | .ok _ => []
  | .error _ => [.cache .storeError]

/-- A watched store is logged with what the store has answered. -/
lemma store_watched (cached : g.cache = some p) (key payload s log) :
    Cache.store g.watched.cache key payload (s, log) =
      (storeEvents (p.set key payload s).1,
        (p.set key payload s).2, log ++ [.set key payload (p.set key payload s).1]) := by
  rcases put : p.set key payload s with ⟨_ | _, s'⟩ <;>
    simp [Gateway.watched, cached, Cache.store, Cache.Provider.watched, put, storeEvents]

/-- A watched call is logged with what the backend has answered. -/
lemma call_watched (op args s log) :
    g.watched.backend.call op args (s, log) =
      ((g.backend.call op args s).1, (g.backend.call op args s).2,
        log ++ [⟨op, args, (g.backend.call op args s).1⟩]) := rfl

end step

/-- A step is logged as it is done. -/
lemma since_advance (g : Gateway β σ) (stage : Stage) (w) :
    Since g w (g.watched.advance stage w).2 := by
  obtain ⟨b, ⟨s, accesses⟩, journal⟩ := w
  cases stage with
  | lookup op r key =>
    refine ⟨⟨[], (List.append_nil _).symm, .nil⟩, ?_⟩
    cases cached : g.cache with
    | none =>
      have absent : g.watched.cache = none := by rw [Gateway.watched, cached]; rfl
      simp only [Gateway.advance, absent, Cache.lookup]
      exact ⟨[], (List.append_nil _).symm, .nil⟩
    | some p =>
      simp only [Gateway.advance, lookup_watched cached]
      exact ⟨_, rfl, .get rfl rfl .nil⟩
  | call op r key outcome args =>
    exact ⟨⟨_, rfl, .call rfl .nil⟩, [], (List.append_nil _).symm, .nil⟩
  | store op key payload =>
    refine ⟨⟨[], (List.append_nil _).symm, .nil⟩, ?_⟩
    cases cached : g.cache with
    | none =>
      have absent : g.watched.cache = none := by rw [Gateway.watched, cached]; rfl
      simp only [Gateway.advance, absent, Cache.store]
      exact ⟨[], (List.append_nil _).symm, .nil⟩
    | some p =>
      simp only [Gateway.advance, store_watched cached]
      exact ⟨_, rfl, .set rfl rfl .nil⟩
  | done result => exact .refl rfl rfl

/-- All steps up to the end are logged as they are done. -/
lemma since_finish (g : Gateway β σ) (stage : Stage) (w) :
    Since g w (g.watched.finish stage w).2 := by
  fun_induction g.watched.finish stage w with
  | case1 => exact .refl rfl rfl
  | case2 w op r key ih => exact (since_advance g _ w).trans ih
  | case3 w op r key outcome args ih => exact (since_advance g _ w).trans ih
  | case4 w op key payload ih => exact (since_advance g _ w).trans ih

/-- A dispatch is logged as it is done. -/
lemma since_dispatch (g : Gateway β σ) (r : Request) (w) :
    Since g w (g.watched.dispatch r w).2 := by
  unfold Gateway.dispatch
  cases select r with
  | error e => exact .refl rfl rfl
  | ok op =>
    have started : Since g w (g.watched.start op r w).2 := .refl rfl rfl
    exact started.trans (since_finish g _ _)

end MetadataGateway.Dispatch
