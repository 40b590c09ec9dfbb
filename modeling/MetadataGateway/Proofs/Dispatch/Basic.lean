import Mathlib.Tactic.Common
import MetadataGateway.Dispatch.Gateway

/-!
# Dispatches and their waits

What a request selects and whether it has a key are the two questions on which a dispatch turns.
Taken from wait to wait it comes to its end, because every step leaves fewer waits. Whatever is done
for one request in a world can be done for many, one by one.
-/

namespace MetadataGateway.Dispatch

variable {β σ : Type}

/-! ## Operations and keys -/

/-- An operation that a request selects is one of the table. -/
lemma mem_table_of_select {r : Request} {op : Operation} (sel : select r = .ok op) :
    op ∈ Operation.table := by
  unfold select at sel
  cases found : Operation.find? r.hasFlag with
  | none => simp [found] at sel
  | some op' =>
    simp only [found, Except.ok.injEq] at sel
    subst sel
    exact List.mem_of_find?_eq_some found

/-- A request fails to select an operation in one way only. -/
lemma select_eq_error {r : Request} {e : Failure} (sel : select r = .error e) :
    e = .unsupportedOperation := by
  unfold select at sel
  cases found : Operation.find? r.hasFlag with
  | none =>
    simp only [found, Except.error.injEq] at sel
    exact sel.symm
  | some op => simp [found] at sel

section key

variable {enabled : Bool} {policy : Policy} {op : Operation} {r : Request}

/-- A request has a key when there is a cache, the policy lets its operation use it, and its target
says everything. -/
lemma cacheKey_eq_some {key : Fingerprint} :
    cacheKey enabled policy op r = some key ↔
      enabled = true ∧ policy.appliesTo op = true ∧ r.hasBodyValues = false ∧
        key = .ofUri r.uri := by
  unfold cacheKey
  cases enabled <;> cases policy.appliesTo op <;> cases r.hasBodyValues <;> simp [eq_comm]

/-- Where a request has a key, there is a store. -/
lemma exists_provider_of_cacheKey {g : Gateway β σ} {key : Fingerprint}
    (keyed : cacheKey g.cacheEnabled g.policy op r = some key) : ∃ p, g.cache = some p :=
  Option.isSome_iff_exists.1 (cacheKey_eq_some.1 keyed).1

end key

/-! ## From wait to wait -/

/-- A stage is the end, or has waits before it. -/
lemma done_or_waits (stage : Stage) : (∃ result, stage = .done result) ∨ 0 < stage.waits := by
  cases stage with
  | done result => exact .inl ⟨result, rfl⟩
  | lookup | call | store => exact .inr (Nat.succ_pos _)

namespace Gateway

variable (g : Gateway β σ)

/-- A dispatch that waits for nothing is at its end. -/
lemma finish_done (result : Except Failure Served) (w : World β σ) :
    g.finish (.done result) w = (result, w) := by
  rw [finish]

/-- The end is the same, one step later. -/
lemma finish_advance (stage : Stage) (w : World β σ) :
    g.finish (g.advance stage w).1 (g.advance stage w).2 = g.finish stage w := by
  cases stage with
  | done result => rfl
  | _ => conv_rhs => rw [finish]

/-- A step adds to the journal, whatever is there. -/
lemma advance_behind (before : Journal) (stage : Stage) (w : World β σ) :
    g.advance stage { w with journal := before ++ w.journal } =
      ((g.advance stage w).1,
        { (g.advance stage w).2 with journal := before ++ (g.advance stage w).2.journal }) := by
  cases stage <;> simp [advance]

end Gateway

/-! ## One by one -/

section oneByOne

variable {α ω γ δ : Type}

/-- Do something for one after another, each in the world that the one before has left. -/
def oneByOne (f : α → ω → γ × ω) : List α → ω → List γ × ω
  | [], w => ([], w)
  | a :: as, w =>
    let (c, w) := f a w
    let (cs, w) := oneByOne f as w
    (c :: cs, w)

/-- The first is done before the others. -/
lemma oneByOne_cons (f : α → ω → γ × ω) (a : α) (as : List α) (w : ω) :
    oneByOne f (a :: as) w =
      ((f a w).1 :: (oneByOne f as (f a w).2).1, (oneByOne f as (f a w).2).2) := rfl

/-- Some are done before the others. -/
lemma oneByOne_append (f : α → ω → γ × ω) (as bs : List α) (w : ω) :
    oneByOne f (as ++ bs) w =
      ((oneByOne f as w).1 ++ (oneByOne f bs (oneByOne f as w).2).1,
        (oneByOne f bs (oneByOne f as w).2).2) := by
  induction as generalizing w with
  | nil => rfl
  | cons a as ih => simp only [List.cons_append, oneByOne_cons, ih]

/-- What tells more of each tells the same of all. -/
lemma oneByOne_map {f : α → ω → γ × ω} {f' : α → ω → δ × ω} {tell : δ → γ}
    (same : ∀ a w, (tell (f' a w).1, (f' a w).2) = f a w) (as : List α) (w : ω) :
    ((oneByOne f' as w).1.map tell, (oneByOne f' as w).2) = oneByOne f as w := by
  induction as generalizing w with
  | nil => rfl
  | cons a as ih => simp only [oneByOne_cons, ← same, ← ih, List.map_cons]

/-- Each is done in the world behind those before it, and leaves the world to those behind it. -/
lemma oneByOne_getElem? {f : α → ω → γ × ω} {as : List α} {i : Nat} {a : α}
    (here : as[i]? = some a) (w : ω) :
    (oneByOne f as w).1[i]? = some (f a (oneByOne f (as.take i) w).2).1 ∧
      (oneByOne f (as.take (i + 1)) w).2 = (f a (oneByOne f (as.take i) w).2).2 := by
  induction as generalizing i w with
  | nil => simp at here
  | cons b bs ih =>
    cases i with
    | zero =>
      cases here
      exact ⟨rfl, rfl⟩
    | succ i => exact ih here (f b w).2

end oneByOne

/-- Dispatch requests one after another. -/
def Gateway.dispatchAll (g : Gateway β σ) :
    List Request → World β σ → List (Except Failure Served) × World β σ :=
  oneByOne g.dispatch

end MetadataGateway.Dispatch
