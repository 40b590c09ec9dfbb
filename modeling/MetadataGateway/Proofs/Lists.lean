import Mathlib.Algebra.GroupWithZero.Nat
import Mathlib.Data.List.Forall2
import Mathlib.Tactic.Common

/-!
# Places in lists

What stands at a place of a list that has been extended or changed at one place. The systems of this
library keep their parts in such lists, and a step changes one part or begins another. What the
parts have in all is summed up over the list. Results that are taken one after another are all
there, or the first that is missing says why. What is put under a name is found there if names are
different. The texts that the systems read are cut at the first separator.
-/

namespace MetadataGateway

variable {α : Type} {l l' : List α} {i j : Nat} {a b : α}

/-- A place where something stands is in the list. -/
lemma lt_length_of_getElem? (here : l[i]? = some a) : i < l.length :=
  (List.getElem?_eq_some_iff.1 here).1

/-- What stands in a list that was changed at one place is new or stood there before. -/
lemma getElem?_of_set (here : (l.set i a)[j]? = some b) :
    (j = i ∧ b = a) ∨ (j ≠ i ∧ l[j]? = some b) := by
  rw [List.getElem?_set] at here
  split at here
  · rename_i same
    split at here
    · cases here
      exact .inl ⟨same.symm, rfl⟩
    · cases here
  · rename_i other
    exact .inr ⟨fun same => other same.symm, here⟩

/-- What stands in a list that was made longer by one is the last or stood there before. -/
lemma getElem?_of_concat (here : (l ++ [a])[j]? = some b) :
    (j = l.length ∧ b = a) ∨ l[j]? = some b := by
  rw [List.getElem?_append] at here
  split at here
  · exact .inr here
  · rename_i long
    rw [List.getElem?_singleton] at here
    split at here
    · cases here
      exact .inl ⟨by omega, rfl⟩
    · cases here

/-- What stands in the front of a list stands in the list. -/
lemma getElem?_of_front (front : l <+: l') (here : l[j]? = some a) : l'[j]? = some a := by
  obtain ⟨more, rfl⟩ := front
  rw [List.getElem?_append_left (lt_length_of_getElem? here), here]

/-- What is so of a part of a list stays so where one part is changed and stays so. -/
lemma exists_mem_set {P : α → Prop} (here : l[i]? = some a) (kept : P a → P b)
    (old : ∃ x ∈ l, P x) : ∃ x ∈ l.set i b, P x := by
  obtain ⟨x, mem, so⟩ := old
  obtain ⟨j, there⟩ := List.mem_iff_getElem?.1 mem
  by_cases same : i = j
  · subst same
    cases here.symm.trans there
    exact ⟨b, List.mem_set (lt_length_of_getElem? here) b, kept so⟩
  · exact ⟨x, List.mem_iff_getElem?.2 ⟨j, by rw [List.getElem?_set_ne same, there]⟩, so⟩

/-- Where one part of a list has more to it than before, so has the whole, in some order. -/
lemma flatMap_set_perm {β : Type} {f : α → List β} {new : List β} (here : l[i]? = some a)
    (grown : f b = f a ++ new) : (l.flatMap f ++ new).Perm ((l.set i b).flatMap f) := by
  induction l generalizing i with
  | nil => cases here
  | cons x xs ih =>
    cases i with
    | zero =>
      cases here
      rw [List.set_cons_zero, List.flatMap_cons, List.flatMap_cons, grown, List.append_assoc,
        List.append_assoc]
      exact List.perm_append_comm.append_left _
    | succ i =>
      rw [List.set_cons_succ, List.flatMap_cons, List.flatMap_cons, List.append_assoc]
      exact (ih here).append_left _

/-- How many are of a kind, as a sum. -/
lemma countP_eq_sum (p : α → Bool) (l : List α) :
    l.countP p = (l.map fun a => (p a).toNat).sum := by
  induction l with
  | nil => rfl
  | cons x xs ih =>
    rw [List.countP_cons, ih, List.map_cons, List.sum_cons, Nat.add_comm]
    cases p x <;> rfl

/-- Without what came before, every element stands once in a list. -/
lemma nodup_eraseDups [DecidableEq α] (l : List α) : l.eraseDups.Nodup := by
  cases l with
  | nil => exact List.nodup_nil
  | cons a l =>
    have shorter := List.length_filter_le (fun b => !b == a) l
    rw [List.eraseDups_cons]
    refine List.nodup_cons.2 ⟨?_, nodup_eraseDups _⟩
    rw [List.mem_eraseDups]
    simp
termination_by l.length

/-- What is left without what is taken is what is left when it is dropped. -/
lemma drop_length_takeWhile (p : α → Bool) (l : List α) :
    l.drop (l.takeWhile p).length = l.dropWhile p := by
  conv_lhs =>
    arg 2
    rw [← List.takeWhile_append_dropWhile (p := p) (l := l)]
  exact List.drop_left

/-- It makes no difference whether a list is cut behind what is dropped from it or before. -/
lemma dropWhile_takeWhile_comm {p q : α → Bool} (kept : ∀ a, p a = true → q a = true)
    (l : List α) : (l.takeWhile q).dropWhile p = (l.dropWhile p).takeWhile q := by
  induction l with
  | nil => rfl
  | cons a l ih =>
    by_cases dropped : p a = true
    · rw [List.takeWhile_cons_of_pos (kept a dropped), List.dropWhile_cons_of_pos dropped,
        List.dropWhile_cons_of_pos dropped, ih]
    · rw [List.dropWhile_cons_of_neg dropped]
      by_cases here : q a = true
      · rw [List.takeWhile_cons_of_pos here, List.dropWhile_cons_of_neg dropped]
      · rw [List.takeWhile_cons_of_neg here, List.dropWhile_nil]

/-! ## Results taken one after another -/

section results

variable {β ε : Type} {f : α → Except ε β} {bs : List β} {e : ε}

/-- A result that is taken from another. -/
lemma bind_eq_ok_iff {γ : Type} {x : Except ε β} {g : β → Except ε γ} {c : γ} :
    x.bind g = .ok c ↔ ∃ b, x = .ok b ∧ g b = .ok c := by
  cases x <;> simp [Except.bind]

/-- Functions that are alike on a list map it alike. -/
lemma mapM_congr {g : α → Except ε β} (same : ∀ a ∈ l, f a = g a) : l.mapM f = l.mapM g := by
  induction l with
  | nil => rfl
  | cons a l ih =>
    obtain ⟨first, rest⟩ := List.forall_mem_cons.1 same
    rw [List.mapM_cons, List.mapM_cons, first, ih rest]

/-- A list is mapped just if its first item is and then the others. -/
lemma mapM_cons_eq_ok (a : α) (l : List α) :
    (a :: l).mapM f = .ok bs ↔ ∃ b bs', f a = .ok b ∧ l.mapM f = .ok bs' ∧ bs = b :: bs' := by
  rw [List.mapM_cons]
  cases f a with
  | error _ => simp [bind, Except.bind]
  | ok b => cases l.mapM f <;> simp [bind, Except.bind, pure, Except.pure, eq_comm]

/-- A list fails to be mapped at its first item or behind it. -/
lemma mapM_cons_eq_error (a : α) (l : List α) :
    (a :: l).mapM f = .error e ↔
      f a = .error e ∨ ∃ b, f a = .ok b ∧ l.mapM f = .error e := by
  rw [List.mapM_cons]
  cases f a with
  | error _ => simp [bind, Except.bind]
  | ok b => cases l.mapM f <;> simp [bind, Except.bind, pure, Except.pure]

/-- All results are there when each of them is. -/
lemma mapM_eq_ok_iff : l.mapM f = .ok bs ↔ List.Forall₂ (fun a b => f a = .ok b) l bs := by
  induction l generalizing bs with
  | nil => simp [pure, Except.pure, eq_comm]
  | cons a l ih => simp only [mapM_cons_eq_ok, ih, List.forall₂_cons_left_iff]

/-- Each result is taken from one of the list. -/
lemma exists_of_mem_mapM {b : β} (taken : l.mapM f = .ok bs) (mem : b ∈ bs) :
    ∃ a ∈ l, f a = .ok b := by
  replace taken := mapM_eq_ok_iff.1 taken
  induction taken with
  | nil => cases mem
  | cons first _ ih =>
    rcases List.mem_cons.1 mem with rfl | mem
    · exact ⟨_, List.mem_cons_self, first⟩
    · obtain ⟨a, here, one⟩ := ih mem
      exact ⟨a, List.mem_cons_of_mem _ here, one⟩

/-- There are results just if there is one for each. -/
lemma exists_mapM_eq_ok_iff : (∃ bs, l.mapM f = .ok bs) ↔ ∀ a ∈ l, ∃ b, f a = .ok b := by
  induction l with
  | nil => simp [pure, Except.pure]
  | cons a l ih =>
    rw [List.forall_mem_cons, ← ih]
    constructor
    · rintro ⟨_, taken⟩
      obtain ⟨b, bs, first, rest, -⟩ := (mapM_cons_eq_ok a l).1 taken
      exact ⟨⟨b, first⟩, bs, rest⟩
    · rintro ⟨⟨b, first⟩, bs, rest⟩
      exact ⟨b :: bs, (mapM_cons_eq_ok a l).2 ⟨b, bs, first, rest, rfl⟩⟩

/-- The error is the first that there is. -/
lemma mapM_eq_error_iff : l.mapM f = .error e ↔
    ∃ before a after, l = before ++ a :: after ∧ (∀ b ∈ before, ∃ c, f b = .ok c) ∧
      f a = .error e := by
  induction l with
  | nil => simp [pure, Except.pure]
  | cons x l ih =>
    rw [mapM_cons_eq_error, ih]
    constructor
    · rintro (failed | ⟨b, here, before, a, after, rfl, done, failed⟩)
      · exact ⟨[], x, l, rfl, nofun, failed⟩
      · exact ⟨x :: before, a, after, rfl, List.forall_mem_cons.2 ⟨⟨b, here⟩, done⟩, failed⟩
    · rintro ⟨before, a, after, split, done, failed⟩
      cases before with
      | nil =>
        cases split
        exact .inl failed
      | cons y before =>
        cases split
        obtain ⟨⟨b, here⟩, done⟩ := List.forall_mem_cons.1 done
        exact .inr ⟨b, here, before, a, after, rfl, done, failed⟩

end results

section names

variable {β : Type} [BEq α] [LawfulBEq α] {named : List (α × β)} {b : β}

/-- What is found under a name stands there with it. -/
lemma mem_of_lookup (here : named.lookup a = some b) : (a, b) ∈ named := by
  obtain ⟨before, behind, rfl, -⟩ := List.lookup_eq_some_iff.1 here
  exact List.mem_append_right _ List.mem_cons_self

/-- Nothing is found under a name just if the name is not there. -/
lemma lookup_eq_none_iff_not_mem : named.lookup a = none ↔ a ∉ named.map Prod.fst := by
  rw [List.lookup_eq_none_iff, List.mem_map]
  constructor
  · rintro absent ⟨m, mem, rfl⟩
    exact bne_iff_ne.1 (absent m mem) rfl
  · exact fun absent m mem => bne_iff_ne.2 fun same => absent ⟨m, mem, same.symm⟩

end names

/-! ## Cutting at a separator -/

/-- There is one part more than there are separators. -/
lemma length_splitOn [BEq α] (sep : α) (l : List α) : (l.splitOn sep).length = l.count sep + 1 := by
  induction l with
  | nil => rw [List.splitOn_nil, List.count_nil, List.length_singleton]
  | cons a l ih =>
    rw [List.splitOn_cons_eq_if_modifyHead, List.count_cons]
    split_ifs with same
    · rw [List.length_cons, ih]
    · rw [List.length_modifyHead, ih]

section separator

variable [BEq α] [LawfulBEq α] {sep : α} {front : List α}

/-- What is free of a separator stands before the first one. -/
lemma takeWhile_ne_append (absent : sep ∉ front) (back : List α) :
    (front ++ back).takeWhile (· != sep) = front ++ back.takeWhile (· != sep) :=
  List.takeWhile_append_of_pos fun _ here => bne_iff_ne.2 fun same => absent (same ▸ here)

/-- A part without the separator is dropped with what follows up to it. -/
lemma dropWhile_ne_append (absent : sep ∉ front) (back : List α) :
    (front ++ back).dropWhile (· != sep) = back.dropWhile (· != sep) :=
  List.dropWhile_append_of_pos fun _ here => bne_iff_ne.2 fun same => absent (same ▸ here)

/-- A list with a separator is what stands before the first one and what stands behind it. -/
lemma takeWhile_append_cons_dropWhile (mem : sep ∈ l) :
    l.takeWhile (· != sep) ++ sep :: (l.dropWhile (· != sep)).drop 1 = l := by
  induction l with
  | nil => cases mem
  | cons a l ih =>
    by_cases same : a = sep
    · simp [same]
    · have behind := ih ((List.mem_cons.1 mem).resolve_left (Ne.symm same))
      simpa [same] using behind

/-- A part without the separator stands in front just if it stands in front of what is before the
first separator. -/
lemma prefix_takeWhile_ne_iff (absent : sep ∉ front) :
    front <+: l.takeWhile (· != sep) ↔ front <+: l := by
  constructor
  · exact fun here => here.trans <| List.takeWhile_prefix _
  · rintro ⟨back, rfl⟩
    rw [takeWhile_ne_append absent]
    exact List.prefix_append front _

/-- Nothing stands between the separators of a list just if it is nothing but separators. -/
lemma filter_splitOn_eq_nil : (l.splitOn sep).filter (· != []) = [] ↔ ∀ a ∈ l, a = sep := by
  rw [List.splitOn]
  induction l with
  | nil => simp [List.splitOnP_nil]
  | cons a l ih =>
    rw [List.splitOnP_cons_eq_if_modifyHead, List.forall_mem_cons]
    split_ifs with same
    · simpa [eq_of_beq same] using ih
    · -- What is no separator stands at the front of the first part.
      obtain ⟨part, parts, cut⟩ := List.exists_cons_of_ne_nil
        (List.splitOnP_ne_nil (fun x => x == sep) l)
      have other : a ≠ sep := by simpa using same
      simp [cut, other]

/-- No part between separators has one in it. -/
lemma not_mem_of_mem_splitOn {part : List α} (mem : part ∈ l.splitOn sep) : sep ∉ part := by
  induction l generalizing part with
  | nil =>
    rw [List.splitOn_nil, List.mem_singleton] at mem
    subst mem
    exact List.not_mem_nil
  | cons a l ih =>
    rw [List.splitOn_cons_eq_if_modifyHead] at mem
    split_ifs at mem with same
    · rcases List.mem_cons.1 mem with rfl | behind
      · exact List.not_mem_nil
      · exact ih behind
    · obtain ⟨first, rest, cut⟩ := List.exists_cons_of_ne_nil (List.splitOn_ne_nil sep l)
      rw [cut] at ih mem
      rcases List.mem_cons.1 mem with rfl | behind
      · rw [List.mem_cons, not_or]
        exact ⟨fun here => same (beq_iff_eq.2 here.symm), ih List.mem_cons_self⟩
      · exact ih (List.mem_cons_of_mem _ behind)

end separator

end MetadataGateway
