import MetadataGateway.Proofs.Coercion

/-!
# Arguments are exact

The arguments of an operation are prepared just if the first value of each of its names is one of
the type that the name has. Then each parameter has its argument, of its type, and it is null just
if the first value of its name is empty or there is none: no other text is coerced to null
(`isNull_of_coerce`), not even one that spells a null or a zero. Otherwise the first parameter that
has no argument is reported, and those behind it do not count.
-/

namespace MetadataGateway

namespace Request

variable {r : Request} {name text : String}

/-- The first of the values under a name. -/
def FirstValue (r : Request) (name text : String) : Prop :=
  ∃ before after, r.values = before ++ (name, text) :: after ∧ ∀ pair ∈ before, pair.1 ≠ name

/-- There is no value under a name. -/
def Absent (r : Request) (name : String) : Prop :=
  ∀ pair ∈ r.values, pair.1 ≠ name

/-- A name stands for its first value. -/
lemma FirstValue.value_eq (first : r.FirstValue name text) : r.value name = text := by
  obtain ⟨before, after, split, others⟩ := first
  have found : r.values.lookup name = some text :=
    List.lookup_eq_some_iff.2
      ⟨before, after, split, fun pair mem => bne_iff_ne.2 fun same => others pair mem same.symm⟩
  rw [value, found, Option.getD_some]

/-- A name under which there is no value stands for the empty text. -/
lemma Absent.value_eq (absent : r.Absent name) : r.value name = "" := by
  have missing : r.values.lookup name = none :=
    List.lookup_eq_none_iff.2
      fun pair mem => bne_iff_ne.2 fun same => absent pair mem same.symm
  rw [value, missing, Option.getD_none]

/-- What a name stands for is its first value, if there is one. -/
lemma firstValue_or_absent (r : Request) (name : String) :
    r.FirstValue name (r.value name) ∨ r.Absent name := by
  cases found : r.values.lookup name with
  | some text =>
    obtain ⟨before, after, split, others⟩ := List.lookup_eq_some_iff.1 found
    left
    rw [value, found, Option.getD_some]
    exact ⟨before, after, split, fun pair mem same => bne_iff_ne.1 (others pair mem) same.symm⟩
  | none =>
    right
    exact fun pair mem same => bne_iff_ne.1 (List.lookup_eq_none_iff.1 found pair mem) same.symm

/-- A name under which there is no value has no first one. -/
lemma Absent.not_firstValue (absent : r.Absent name) : ¬ r.FirstValue name text := by
  rintro ⟨before, after, split, -⟩
  refine absent (name, text) ?_ rfl
  rw [split]
  exact List.mem_append_right _ List.mem_cons_self

/-- A name stands for the empty text if its first value is that, or if there is no value. -/
lemma value_eq_empty_iff : r.value name = "" ↔ r.FirstValue name "" ∨ r.Absent name := by
  constructor
  · intro empty
    have first := r.firstValue_or_absent name
    rwa [empty] at first
  · rintro (first | absent)
    · exact first.value_eq
    · exact absent.value_eq

end Request

namespace Coercion

variable {op : Operation} {r : Request} {p : Parameter} {args : List Argument} {a : Argument}
  {e : Error}

/-! ## Null -/

/-- What is read and then made an argument that is not null is not null. -/
lemma isNull_of_map {α : Type} {read : Except Reason α} {of : α → Argument}
    (present : ∀ x, (of x).isNull = false) (mapped : read.map of = .ok a) : a.isNull = false := by
  cases read with
  | error e => cases mapped
  | ok x =>
    cases mapped
    exact present x

/-- The empty text is null, and no other text is. -/
lemma isNull_of_coerce {kind : Kind} {raw : String} (coerced : coerce kind raw = .ok a) :
    a.isNull = true ↔ raw = "" := by
  unfold coerce at coerced
  split at coerced
  case isTrue empty =>
    cases coerced
    exact iff_of_true (Argument.isNull_null kind) empty
  case isFalse some_text =>
    have present : a.isNull = false := by
      cases kind with
      | text | textList =>
        cases coerced
        rfl
      | integer | float | timestamp | json => exact isNull_of_map (fun _ => rfl) coerced
    refine iff_of_false ?_ some_text
    rw [present]
    exact Bool.false_ne_true

/-- A text that spells the null of JSON is not null. -/
example : coerce .json "null" = .ok (.json (some .null)) := by rfl

/-! ## One parameter -/

/-- The first value of a parameter, if it takes one, is of its type. -/
def Coerces (r : Request) (p : Parameter) : Prop :=
  ∀ name text, p.source = .form name → r.FirstValue name text → ∃ a, coerce p.kind text = .ok a

/-- The argument that a parameter has to have. -/
def Answers (r : Request) (p : Parameter) (a : Argument) : Prop :=
  match p.source with
  | .path => a = .text (some r.gpath)
  | .form name =>
    (∀ text, r.FirstValue name text → coerce p.kind text = .ok a) ∧ a.kind = p.kind ∧
      (a.isNull = true ↔ r.FirstValue name "" ∨ r.Absent name)

/-- The error of a parameter whose first value is not of its type. -/
def Refuses (r : Request) (p : Parameter) (e : Error) : Prop :=
  ∃ name text reason, p.source = .form name ∧ r.FirstValue name text ∧
    coerce p.kind text = .error reason ∧ e = ⟨name, text, reason⟩

section prepareOne

variable {name text : String}

/-- The path is the argument of its parameter. -/
lemma prepareOne_path (source : p.source = .path) :
    prepareOne r p = .ok (.text (some r.gpath)) := by
  unfold prepareOne
  rw [source]

/-- The first value of a name becomes an argument if it is of its type. -/
lemma prepareOne_eq_ok_iff (source : p.source = .form name) (first : r.FirstValue name text) :
    prepareOne r p = .ok a ↔ coerce p.kind text = .ok a := by
  unfold prepareOne
  rw [source]
  dsimp only
  rw [first.value_eq]
  cases coerce p.kind text <;> simp

/-- The first value of a name is reported if it is not of its type. -/
lemma prepareOne_eq_error_iff (source : p.source = .form name) (first : r.FirstValue name text) :
    prepareOne r p = .error e ↔
      ∃ reason, coerce p.kind text = .error reason ∧ e = ⟨name, text, reason⟩ := by
  unfold prepareOne
  rw [source]
  dsimp only
  rw [first.value_eq]
  cases coerce p.kind text <;> simp [eq_comm]

/-- Where there is no value the argument is the null of its type. -/
lemma prepareOne_absent (source : p.source = .form name) (absent : r.Absent name) :
    prepareOne r p = .ok (.null p.kind) := by
  unfold prepareOne
  rw [source]
  dsimp only
  rw [absent.value_eq]
  rfl

/-- What is prepared is the argument that the parameter has to have. -/
lemma answers_of_prepareOne (prepared : prepareOne r p = .ok a) : Answers r p a := by
  unfold Answers
  cases source : p.source with
  | path =>
    rw [prepareOne_path source] at prepared
    cases prepared
    rfl
  | form name =>
    obtain first | absent := r.firstValue_or_absent name
    · have coerced := (prepareOne_eq_ok_iff source first).1 prepared
      refine ⟨fun text first' => (prepareOne_eq_ok_iff source first').1 prepared,
        kind_of_coerce coerced, ?_⟩
      rw [isNull_of_coerce coerced, Request.value_eq_empty_iff]
    · rw [prepareOne_absent source absent] at prepared
      cases prepared
      exact ⟨fun text first => absurd first absent.not_firstValue, Argument.kind_null _,
        iff_of_true (Argument.isNull_null _) (.inr absent)⟩

/-- A parameter has an argument just if its first value, if it takes one, is of its type. -/
lemma exists_prepareOne_iff : (∃ a, prepareOne r p = .ok a) ↔ Coerces r p := by
  constructor
  · rintro ⟨a, prepared⟩ name text source first
    exact ⟨a, (prepareOne_eq_ok_iff source first).1 prepared⟩
  · intro coerces
    cases source : p.source with
    | path => exact ⟨_, prepareOne_path source⟩
    | form name =>
      obtain first | absent := r.firstValue_or_absent name
      · obtain ⟨a, coerced⟩ := coerces name _ source first
        exact ⟨a, (prepareOne_eq_ok_iff source first).2 coerced⟩
      · exact ⟨_, prepareOne_absent source absent⟩

/-- The error of a parameter is that of its first value. -/
lemma refuses_iff : prepareOne r p = .error e ↔ Refuses r p e := by
  constructor
  · intro refused
    cases source : p.source with
    | path =>
      rw [prepareOne_path source] at refused
      cases refused
    | form name =>
      obtain first | absent := r.firstValue_or_absent name
      · obtain ⟨reason, coerced, same⟩ := (prepareOne_eq_error_iff source first).1 refused
        exact ⟨name, _, reason, source, first, coerced, same⟩
      · rw [prepareOne_absent source absent] at refused
        cases refused
  · rintro ⟨name, text, reason, source, first, coerced, same⟩
    exact (prepareOne_eq_error_iff source first).2 ⟨reason, coerced, same⟩

end prepareOne

/-! ## All parameters -/

/-- An operation has its arguments just if the first value of each parameter is of its type. Then
there is one for each parameter, in order: the path as a text, which is not null, or the first value
as an argument of the type of the parameter, which is null just if that value is empty or there is
none. Otherwise there is the error of the first parameter that has one, with its name and its first
value as it stands in the request, whatever stands behind that parameter. -/
theorem prepare_exact (op : Operation) (r : Request) :
    ((∃ args, prepare op r = .ok args) ↔ ∀ p ∈ op.parameters, Coerces r p) ∧
    (∀ args, prepare op r = .ok args → List.Forall₂ (Answers r) op.parameters args) ∧
    ∀ e, prepare op r = .error e ↔
      ∃ before p after, op.parameters = before ++ p :: after ∧ (∀ q ∈ before, Coerces r q) ∧
        Refuses r p e := by
  have errors (e : Error) : prepare op r = .error e ↔
      ∃ before p after, op.parameters = before ++ p :: after ∧ (∀ q ∈ before, Coerces r q) ∧
        Refuses r p e := by
    rw [prepare, mapM_eq_error_iff]
    simp only [exists_prepareOne_iff, refuses_iff]
  have prepares : (∃ args, prepare op r = .ok args) ↔ ∀ p ∈ op.parameters, Coerces r p := by
    rw [prepare, exists_mapM_eq_ok_iff]
    simp only [exists_prepareOne_iff]
  refine ⟨prepares, fun args prepared => ?_, errors⟩
  exact (mapM_eq_ok_iff.1 prepared).imp fun _ _ => answers_of_prepareOne

end Coercion

end MetadataGateway
