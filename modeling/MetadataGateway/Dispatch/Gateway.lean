import MetadataGateway.Cache.Basic
import MetadataGateway.Dispatch.Stage

/-!
# The gateway

A gateway is a backend, perhaps a cache, and a policy. It takes a dispatch from stage to stage in a
world, which is the state of the backend and of the store with the journal. Every step leaves fewer
waits, so a dispatch that is taken on alone comes to its end.
-/

namespace MetadataGateway.Dispatch

/-- The state that dispatches share. -/
structure World (β σ : Type) where
  backend : β
  store : σ
  journal : Journal

/-- What answers requests. -/
structure Gateway (β σ : Type) where
  backend : Backend β
  cache : Option (Cache.Provider σ)
  policy : Policy

namespace Gateway

variable {β σ : Type}

/-- Whether there is a cache. -/
def cacheEnabled (g : Gateway β σ) : Bool :=
  g.cache.isSome

/-- Begin the dispatch of a request that has selected an operation. -/
def start (g : Gateway β σ) (op : Operation) (r : Request) (w : World β σ) :
    Stage × World β σ :=
  let (stage, recorded) := Stage.start g.cacheEnabled g.policy op r
  (stage, { w with journal := w.journal ++ recorded })

/-- Take a dispatch behind its next wait. -/
def advance (g : Gateway β σ) (stage : Stage) (w : World β σ) : Stage × World β σ :=
  match stage with
  | .lookup op r key =>
    let (payload, recorded, store) := Cache.lookup g.cache key w.store
    (.afterLookup op r key payload, { w with store, journal := w.journal ++ recorded })
  | .call op r key outcome args =>
    let (answer, backend) := g.backend.call op args w.backend
    let (stage, recorded) := Stage.afterCall op r key outcome answer
    (stage, { w with backend, journal := w.journal ++ recorded })
  | .store op key payload =>
    let (recorded, store) := Cache.store g.cache key payload w.store
    (.afterStore op payload, { w with store, journal := w.journal ++ recorded })
  | .done result => (.done result, w)

/-- A step leaves fewer waits. -/
theorem waits_advance_lt (g : Gateway β σ) (stage : Stage) (w : World β σ)
    (h : 0 < stage.waits) : (g.advance stage w).1.waits < stage.waits := by
  cases stage with
  | lookup op r key => exact Stage.waits_afterLookup_lt ..
  | call op r key outcome args => exact Stage.waits_afterCall_lt ..
  | store op key payload => exact Nat.zero_lt_one
  | done result => exact absurd h (Nat.lt_irrefl 0)

/-- Take a dispatch to its end. -/
def finish (g : Gateway β σ) (stage : Stage) (w : World β σ) :
    Except Failure Served × World β σ :=
  match stage with
  | .done result => (result, w)
  | .lookup op r key =>
    g.finish (g.advance (.lookup op r key) w).1 (g.advance (.lookup op r key) w).2
  | .call op r key outcome args =>
    g.finish (g.advance (.call op r key outcome args) w).1
      (g.advance (.call op r key outcome args) w).2
  | .store op key payload =>
    g.finish (g.advance (.store op key payload) w).1 (g.advance (.store op key payload) w).2
termination_by stage.waits
decreasing_by all_goals exact waits_advance_lt _ _ _ (by simp [Stage.waits])

/-- Answer a request that has selected an operation. -/
def execute (g : Gateway β σ) (op : Operation) (r : Request) (w : World β σ) :
    Except Failure Served × World β σ :=
  g.finish (g.start op r w).1 (g.start op r w).2

/-- Answer a request. -/
def dispatch (g : Gateway β σ) (r : Request) (w : World β σ) :
    Except Failure Served × World β σ :=
  match select r with
  | .ok op => g.execute op r w
  | .error e => (.error e, w)

end Gateway

end MetadataGateway.Dispatch
