import MetadataGateway.Coercion
import MetadataGateway.Proofs.Lists

/-!
# What the arguments of an operation are

An operation has one argument for each of its parameters, of the type of that parameter, or it has
the error of the first parameter that has one. A path is a text, so the type of a parameter that
takes the path has to be that of texts; in the table it is (`kind_of_mem_table`).
-/

namespace MetadataGateway.Coercion

variable {op : Operation} {r : Request} {p : Parameter} {args : List Argument} {a : Argument}

/-- What is read and then made an argument is of the type of such arguments. -/
lemma kind_of_map {α : Type} {read : Except Reason α} {of : α → Argument} {kind : Kind}
    (typed : ∀ x, (of x).kind = kind) (mapped : read.map of = .ok a) : a.kind = kind := by
  cases read with
  | error e => cases mapped
  | ok x =>
    cases mapped
    exact typed x

/-- A text becomes an argument of the type that is asked for. -/
lemma kind_of_coerce {kind : Kind} {raw : String} (coerced : coerce kind raw = .ok a) :
    a.kind = kind := by
  unfold coerce at coerced
  split at coerced
  · cases coerced
    exact Argument.kind_null kind
  · cases kind with
    | text | textList =>
      cases coerced
      rfl
    | integer | float | timestamp | json => exact kind_of_map (fun _ => rfl) coerced

/-- The argument for a parameter has its type. -/
lemma kind_of_prepareOne (typed : p.source = .path → p.kind = .text)
    (prepared : prepareOne r p = .ok a) : a.kind = p.kind := by
  unfold prepareOne at prepared
  cases source : p.source with
  | path =>
    rw [source] at prepared
    cases prepared
    exact (typed source).symm
  | form name =>
    simp only [source] at prepared
    split at prepared
    case h_1 coerced =>
      cases prepared
      exact kind_of_coerce coerced
    case h_2 => cases prepared

/-- In the table, the parameters that take the path have the type of texts. -/
lemma kind_of_mem_table (mem : op ∈ Operation.table) (here : p ∈ op.parameters)
    (source : p.source = .path) : p.kind = .text := by
  have texts : ∀ op ∈ Operation.table, ∀ p ∈ op.parameters, p.source = .path → p.kind = .text := by
    decide
  exact texts op mem p here source

/-- An operation of the table has an argument for each of its parameters, of the same type. -/
lemma kinds_of_prepare (mem : op ∈ Operation.table) (prepared : prepare op r = .ok args) :
    args.map Argument.kind = op.parameters.map Parameter.kind := by
  have typed := fun p here => kind_of_mem_table (p := p) mem here
  replace prepared := mapM_eq_ok_iff.1 prepared
  -- That the operation is one of the table counts only for the types of its parameters.
  generalize op.parameters = parameters at prepared typed
  induction prepared with
  | nil => rfl
  | cons first _ ih =>
    rw [List.map_cons, List.map_cons, kind_of_prepareOne (typed _ List.mem_cons_self) first,
      ih fun p here => typed p (List.mem_cons_of_mem _ here)]

end MetadataGateway.Coercion
