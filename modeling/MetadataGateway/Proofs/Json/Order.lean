import Mathlib.Data.String.Basic
import MetadataGateway.Json.Reader
import MetadataGateway.Proofs.Lists

/-!
# The order of members

The members of an object stand in the order of their names. `sorted` puts them so at every level of
a value; a value is `Ordered` if they stand so. What is put member by member into an object that has
none comes to stand in that order (`gathered_eq`), so whatever a text holds is ordered
(`ordered_of_ofText`), and a value that is ordered is left as it is (`sorted_of_ordered`).
-/

namespace MetadataGateway.Json

open Cursor

/-- The order of two members by their names. -/
def nameLe (m n : String × Json) : Bool :=
  decide (m.1 ≤ n.1)

mutual

/-- A value with the members of its objects in the order of their names. -/
def sorted : Json → Json
  | .null => .null
  | .boolean b => .boolean b
  | .integer n => .integer n
  | .float x => .float x
  | .string s => .string s
  | .array vs => .array (sortedItems vs)
  | .object ms => .object ((sortedMembers ms).mergeSort nameLe)

/-- Items, each with its members in order. -/
def sortedItems : List Json → List Json
  | [] => []
  | v :: vs => sorted v :: sortedItems vs

/-- Members where they stood, each with the members of its value in order. -/
def sortedMembers : List (String × Json) → List (String × Json)
  | [] => []
  | (n, v) :: ms => (n, sorted v) :: sortedMembers ms

end

/-- The members of all objects of a value stand in the order of their names. -/
inductive Ordered : Json → Prop where
  | null :
    Ordered .null
  | boolean {b : Bool} :
    Ordered (.boolean b)
  | integer {n : Int} :
    Ordered (.integer n)
  | float {x : Float} :
    Ordered (.float x)
  | string {s : String} :
    Ordered (.string s)
  | array {vs : List Json} :
    (∀ v ∈ vs, Ordered v) →
    Ordered (.array vs)
  | object {ms : List (String × Json)} :
    ms.Pairwise (fun m n => m.1 < n.1) →
    (∀ m ∈ ms, Ordered m.2) →
    Ordered (.object ms)

variable {v : Json} {vs : List Json} {ms found : List (String × Json)} {name : String}

/-! ## Members put in one by one -/

/-- Members put in order one by one, those that come later in the place of those with their names.
-/
def gathered (ms found : List (String × Json)) : List (String × Json) :=
  ms.foldl (fun found m => putMember m.1 m.2 found) found

/-- A member that is put in is there, and nothing else is new. -/
lemma mem_putMember {m : String × Json} (mem : m ∈ putMember name v found) :
    m = (name, v) ∨ m ∈ found := by
  induction found with
  | nil => exact .inl (List.mem_singleton.1 mem)
  | cons n found ih =>
    obtain ⟨n, u⟩ := n
    rw [putMember] at mem
    split_ifs at mem with before same
    · exact List.mem_cons.1 mem
    · subst same
      exact (List.mem_cons.1 mem).imp_right (List.mem_cons_of_mem _)
    · obtain here | later := List.mem_cons.1 mem
      · exact .inr (here ▸ List.mem_cons_self)
      · exact (ih later).imp_right (List.mem_cons_of_mem _)

/-- Members that stand in order stand so with another put in. -/
lemma pairwise_putMember (ordered : found.Pairwise fun m n => m.1 < n.1) :
    (putMember name v found).Pairwise fun m n => m.1 < n.1 := by
  induction found with
  | nil => exact List.pairwise_singleton _ _
  | cons n found ih =>
    obtain ⟨n, u⟩ := n
    obtain ⟨first, others⟩ := List.pairwise_cons.1 ordered
    rw [putMember]
    split_ifs with before same
    · refine List.pairwise_cons.2 ⟨fun m mem => ?_, ordered⟩
      obtain rfl | later := List.mem_cons.1 mem
      · exact before
      · exact lt_trans before (first m later)
    · exact List.pairwise_cons.2 ⟨first, others⟩
    · refine List.pairwise_cons.2 ⟨fun m mem => ?_, ih others⟩
      obtain rfl | old := mem_putMember mem
      · exact lt_of_le_of_ne (not_lt.1 before) same
      · exact first m old

/-- A member with a new name is put to the others. -/
lemma putMember_perm (fresh : name ∉ found.map Prod.fst) :
    (putMember name v found).Perm ((name, v) :: found) := by
  induction found with
  | nil => exact .refl _
  | cons n found ih =>
    obtain ⟨n, u⟩ := n
    rw [List.map_cons, List.mem_cons, not_or] at fresh
    rw [putMember]
    split_ifs with before same
    · exact .refl _
    · exact absurd same.symm fresh.1
    · exact ((ih fresh.2).cons _).trans (.swap _ _ _)

/-- Members of different names are put to the others. -/
lemma gathered_append_perm (distinct : ((found ++ ms).map Prod.fst).Nodup) :
    (gathered ms found).Perm (found ++ ms) := by
  induction ms generalizing found with
  | nil => rw [List.append_nil]; exact .refl _
  | cons m ms ih =>
    have fresh : m.1 ∉ found.map Prod.fst := by
      rw [List.map_append, List.map_cons] at distinct
      exact fun mem => (List.nodup_append.1 distinct).2.2 _ mem _ List.mem_cons_self rfl
    have perm : (putMember m.1 m.2 found ++ ms).Perm (found ++ m :: ms) :=
      ((putMember_perm fresh).append_right ms).trans List.perm_middle.symm
    exact (ih ((perm.map Prod.fst).nodup_iff.2 distinct)).trans perm

/-- Members that are put in one by one stand in order. -/
lemma pairwise_gathered (ordered : found.Pairwise fun m n => m.1 < n.1) :
    (gathered ms found).Pairwise fun m n => m.1 < n.1 := by
  induction ms generalizing found with
  | nil => exact ordered
  | cons m ms ih => exact ih (pairwise_putMember ordered)

/-- Members of different names stand in one order only. -/
lemma eq_of_perm {ms ns : List (String × Json)} (ordered : ms.Pairwise fun m n => m.1 < n.1)
    (ordered' : ns.Pairwise fun m n => m.1 < n.1) (perm : ms.Perm ns) : ms = ns :=
  perm.eq_of_pairwise (fun _ _ _ _ before behind => absurd behind (lt_asymm before)) ordered
    ordered'

/-- Members of different names are in order when they are sorted. -/
lemma pairwise_mergeSort (distinct : (ms.map Prod.fst).Nodup) :
    (ms.mergeSort nameLe).Pairwise fun m n => m.1 < n.1 := by
  have sorts : (ms.mergeSort nameLe).Pairwise fun m n => nameLe m n = true := by
    refine List.pairwise_mergeSort ?_ ?_ ms
    · intro l m n le le'
      exact decide_eq_true (le_trans (of_decide_eq_true le) (of_decide_eq_true le'))
    · intro m n
      simpa [nameLe] using le_total m.1 n.1
  have names : (ms.mergeSort nameLe).Pairwise fun m n => m.1 ≠ n.1 :=
    List.pairwise_map.1 (((List.mergeSort_perm ms nameLe).map Prod.fst).nodup_iff.2 distinct)
  exact (sorts.and names).imp fun ⟨le, ne⟩ => lt_of_le_of_ne (of_decide_eq_true le) ne

/-- Members of different names that are put in one by one are sorted. -/
lemma gathered_eq (distinct : (ms.map Prod.fst).Nodup) : gathered ms [] = ms.mergeSort nameLe :=
  eq_of_perm (pairwise_gathered .nil) (pairwise_mergeSort distinct)
    ((gathered_append_perm (by simpa using distinct)).trans
      (List.mergeSort_perm ms nameLe).symm)

/-! ## Values that are ordered already -/

/-- Items are put in order one by one. -/
lemma sortedItems_eq (vs : List Json) : sortedItems vs = vs.map sorted := by
  induction vs with
  | nil => rfl
  | cons v vs ih => rw [sortedItems, ih, List.map_cons]

/-- Members keep their names and places while their values are put in order. -/
lemma sortedMembers_eq (ms : List (String × Json)) :
    sortedMembers ms = ms.map fun m => (m.1, m.2.sorted) := by
  induction ms with
  | nil => rfl
  | cons m ms ih => rw [sortedMembers, ih, List.map_cons]

/-- Members keep their names while their values are put in order. -/
lemma names_sortedMembers (ms : List (String × Json)) :
    (sortedMembers ms).map Prod.fst = ms.map Prod.fst := by
  rw [sortedMembers_eq, List.map_map]
  rfl

/-- An object with members of different names is put in order member by member. -/
lemma sorted_object (distinct : (ms.map Prod.fst).Nodup) :
    sorted (.object ms) = .object (gathered (sortedMembers ms) []) := by
  rw [sorted, gathered_eq (names_sortedMembers ms ▸ distinct)]

/-- A value that is ordered is left as it is. -/
theorem sorted_of_ordered (ordered : v.Ordered) : v.sorted = v := by
  induction ordered with
  | null | boolean | integer | float | string => rfl
  | @array vs _ ih =>
    have same : vs.map sorted = vs := (List.map_congr_left ih).trans (List.map_id vs)
    rw [sorted, sortedItems_eq, same]
  | @object ms order _ ih =>
    have same : (ms.map fun m => (m.1, m.2.sorted)) = ms := by
      refine (List.map_congr_left (g := id) fun m mem => ?_).trans (List.map_id ms)
      rw [ih m mem]
      rfl
    have distinct : (ms.map Prod.fst).Nodup :=
      List.pairwise_map.2 (order.imp fun before => ne_of_lt before)
    rw [sorted, sortedMembers_eq, same]
    exact congrArg _
      (eq_of_perm (pairwise_mergeSort distinct) order (List.mergeSort_perm ms nameLe))

/-! ## What a text holds -/

section reading

variable {whole : List Char → Except Error Json} {one : Cursor → Except Error (Json × Cursor)}
  {c c' : Cursor}

/-- A reader gives only values that are ordered. -/
def Orders (one : Cursor → Except Error (Json × Cursor)) : Prop :=
  ∀ c v c', one c = .ok (v, c') → v.Ordered

/-- A double is ordered. -/
lemma orders_finishFloat {positive significand exponent}
    (read : finishFloat c positive significand exponent = .ok (v, c')) : v.Ordered := by
  unfold finishFloat at read
  split at read
  · cases read
    exact .float
  · cases read

/-- A double with a power of ten is ordered. -/
lemma orders_exponentPart {positive significand start}
    (read : exponentPart c positive significand start = .ok (v, c')) : v.Ordered := by
  have digits : ∀ (rest : List Char) (exponent : Nat) (positiveExponent : Bool) (c : Cursor),
      exponentDigits positive significand start positiveExponent exponent c rest = .ok (v, c') →
      v.Ordered := by
    intro rest
    induction rest with
    | nil => exact fun _ _ _ read => orders_finishFloat read
    | cons x rest ih =>
      intro exponent positiveExponent c read
      rw [exponentDigits] at read
      split_ifs at read
      · exact orders_finishFloat read
      · cases read
      · cases read
        exact .float
      · exact ih _ _ _ read
  unfold exponentPart at read
  dsimp only at read
  split at read
  · cases read
  · split at read
    · exact digits _ _ _ _ read
    · cases read

/-- A number is ordered. -/
lemma orders_number {positive} (read : number c positive = .ok (v, c')) : v.Ordered := by
  have fraction {c significand exponent}
      (read : fractionPart c positive significand exponent = .ok (v, c')) : v.Ordered := by
    unfold fractionPart afterDigits at read
    dsimp only at read
    split_ifs at read
    · split at read <;> cases read
    · split at read
      · exact orders_exponentPart read
      · exact orders_exponentPart read
      · exact orders_finishFloat read
  have after {c significand dropped}
      (read : afterWhole c positive significand dropped = .ok (v, c')) : v.Ordered := by
    unfold afterWhole at read
    split at read
    · exact fraction read
    · exact orders_exponentPart read
    · exact orders_exponentPart read
    · split_ifs at read
      · exact orders_finishFloat read
      · cases read
        exact .integer
      · cases read
        exact .float
      · cases read
        exact .integer
  unfold number at read
  split at read
  · cases read
  · split_ifs at read
    · split at read
      · split_ifs at read
        · cases read
        · exact after read
      · exact after read
    · exact after read
    · cases read

/-- A value that has no others in it is ordered. -/
lemma orders_scalar : Orders scalar := by
  intro c v c' read
  unfold scalar at read
  split at read
  · cases read
  · split at read
    · obtain ⟨_, -, same⟩ := bind_eq_ok_iff.1 read
      cases same
      exact .null
    · obtain ⟨_, -, same⟩ := bind_eq_ok_iff.1 read
      cases same
      exact .boolean
    · obtain ⟨_, -, same⟩ := bind_eq_ok_iff.1 read
      cases same
      exact .boolean
    · obtain ⟨_, -, same⟩ := bind_eq_ok_iff.1 read
      cases same
      exact .string
    · exact orders_number read
    · split_ifs at read
      · exact orders_number read
      · cases read

/-- The items of an array are ordered if a reader of one orders it. -/
lemma orders_items (each : Orders one) {fuel : Nat} {first : Bool}
    (read : items one fuel first c = .ok (vs, c')) : ∀ v ∈ vs, v.Ordered := by
  induction fuel generalizing first c vs with
  | zero =>
    rw [items] at read
    cases read
  | succ fuel ih =>
    have more {c vs} (read : items.more one fuel c = .ok (vs, c')) : ∀ v ∈ vs, v.Ordered := by
      unfold items.more at read
      obtain ⟨⟨v, c₁⟩, item, read⟩ := bind_eq_ok_iff.1 read
      obtain ⟨⟨others, c₂⟩, rest, same⟩ := bind_eq_ok_iff.1 read
      cases same
      exact List.forall_mem_cons.2 ⟨each _ _ _ item, ih rest⟩
    rw [items] at read
    dsimp only at read
    split at read
    · cases read
    · split_ifs at read
      · cases read
        exact List.forall_mem_nil _
      · exact more read
      · split at read
        · cases read
        · split_ifs at read
          · cases read
          · exact more read
      · cases read

/-- The members of an object are in order if a reader of one value orders it. -/
lemma orders_members (each : Orders one) {fuel : Nat} {first : Bool}
    (order : found.Pairwise fun m n => m.1 < n.1) (ordered : ∀ m ∈ found, m.2.Ordered)
    (read : members one fuel first found c = .ok (ms, c')) : (Json.object ms).Ordered := by
  induction fuel generalizing first found c with
  | zero =>
    rw [members] at read
    cases read
  | succ fuel ih =>
    have more {c} (read : members.more one fuel found c = .ok (ms, c')) :
        (Json.object ms).Ordered := by
      unfold members.more at read
      obtain ⟨⟨name, c₁⟩, -, read⟩ := bind_eq_ok_iff.1 read
      obtain ⟨c₂, -, read⟩ := bind_eq_ok_iff.1 read
      obtain ⟨⟨v, c₃⟩, value, read⟩ := bind_eq_ok_iff.1 read
      refine ih (pairwise_putMember order) (fun m mem => ?_) read
      obtain rfl | old := mem_putMember mem
      · exact each _ _ _ value
      · exact ordered m old
    rw [members] at read
    dsimp only at read
    split at read
    · cases read
    · split_ifs at read
      · cases read
        exact .object order ordered
      · exact more read
      · cases read
      · split at read
        · cases read
        · split_ifs at read
          · exact more read
          · cases read
          · cases read
      · cases read

/-- A value that is quoted is ordered if the texts are in which values are quoted. -/
lemma orders_quoted? (quotes : ∀ text v, whole text = .ok v → v.Ordered)
    (found : quoted? whole c = .ok (some (v, c'))) : v.Ordered := by
  unfold quoted? at found
  dsimp only at found
  split at found
  · obtain ⟨⟨name, c₁⟩, -, found⟩ := bind_eq_ok_iff.1 found
    dsimp only at found
    split at found
    · obtain ⟨c₂, -, found⟩ := bind_eq_ok_iff.1 found
      obtain ⟨⟨text, c₃⟩, -, found⟩ := bind_eq_ok_iff.1 found
      obtain ⟨u, held, found⟩ := bind_eq_ok_iff.1 found
      obtain ⟨c₄, -, same⟩ := bind_eq_ok_iff.1 found
      cases Option.some.inj (Except.ok.inj same)
      exact quotes _ _ held
    · cases found
  · cases found

/-- A value is ordered if the texts are in which values are quoted. -/
lemma orders_value (quotes : ∀ text v, whole text = .ok v → v.Ordered) (depth : Nat) :
    Orders (value whole depth) := by
  induction depth with
  | zero =>
    intro c v c' read
    rw [value] at read
    cases read
  | succ depth ih =>
    intro c v c' read
    rw [value] at read
    dsimp only at read
    split at read
    · split_ifs at read
      · cases read
      · obtain ⟨⟨vs, c₁⟩, got, same⟩ := bind_eq_ok_iff.1 read
        cases Except.ok.inj same
        exact .array (orders_items ih got)
    · split_ifs at read
      · cases read
      · obtain ⟨quoted, found, rest⟩ := bind_eq_ok_iff.1 read
        cases quoted with
        | some pair =>
          cases Except.ok.inj rest
          exact orders_quoted? quotes found
        | none =>
          obtain ⟨⟨ms, c₁⟩, got, same⟩ := bind_eq_ok_iff.1 rest
          cases Except.ok.inj same
          exact orders_members ih .nil (List.forall_mem_nil _) got
    · exact orders_scalar _ _ _ read

/-- What a text holds is ordered, however values are quoted in one another. -/
lemma ordered_of_ofTextWithin {quotations : Nat} {text : List Char}
    (held : ofTextWithin quotations text = .ok v) : v.Ordered := by
  induction quotations generalizing text v with
  | zero => cases held
  | succ quotations ih =>
    rw [ofTextWithin] at held
    obtain ⟨⟨u, c⟩, read, rest⟩ := bind_eq_ok_iff.1 held
    dsimp only at rest
    split at rest
    · cases Except.ok.inj rest
      exact orders_value (fun _ _ held => ih held) depthLimit _ _ _ read
    · cases rest

/-- What a text holds is ordered. -/
theorem ordered_of_ofText {text : List Char} (held : ofText text = .ok v) : v.Ordered :=
  ordered_of_ofTextWithin held

end reading

end MetadataGateway.Json
