import Mathlib.Data.List.Find
import Mathlib.Data.List.FinRange
import MetadataGateway.Dispatch.Basic
import MetadataGateway.Proofs.Text.Encoding

/-!
# What counts in a request

Of the query, a request asks for an operation by the flags of operations that are there, and gives
its arguments by the first values of the names that the operation takes; of the body only the latter
count. So it does not matter how segments of different names are ordered, or what stands under other
names (`asks_of_segments`). What carries this is that the first value under a name depends only on
the segments of that name, in their order (`lookup_filter`).
-/

namespace MetadataGateway

/-! ## Joined, rearranged and extended lists -/

section lists

variable {α κ : Type} {l l' : List α}

/-- A list in which a separator does not stand. -/
structure Part (sep : α) where
  items : List α
  whole : sep ∉ items

/-- Parts, with the separator between each and the next. -/
def joined {sep : α} (parts : List (Part sep)) : List α :=
  [sep].intercalate (parts.map Part.items)

/-- The same elements in another order. Those of the same key have kept their order, and those
without key may stand anywhere. -/
def Rearranges (key : α → Option κ) (l l' : List α) : Prop :=
  ∃ σ : Equiv.Perm (Fin l.length), l' = (List.finRange l.length).map (fun i => l.get (σ i)) ∧
    ∀ i j, i < j → ∀ k, key (l.get (σ i)) = some k → key (l.get (σ j)) = some k → σ i < σ j

/-- The same elements in the same order, with others inserted anywhere. -/
inductive Extends (extra : α → Prop) : List α → List α → Prop where
  | nil :
    Extends extra [] []
  | keep {a l l'} :
    Extends extra l l' →
    Extends extra (a :: l) (a :: l')
  | insert {a l l'} :
    extra a →
    Extends extra l l' →
    Extends extra l (a :: l')

/-- The elements of one key are the same in the same order. -/
lemma Rearranges.filter_eq [DecidableEq κ] {key : α → Option κ} (same : Rearranges key l l')
    (k : κ) : l'.filter (fun a => key a = some k) = l.filter (fun a => key a = some k) := by
  obtain ⟨σ, rfl, keeps⟩ := same
  let keyed : Fin l.length → Bool := fun i => key (l.get i) = some k
  -- The places of these elements are the same places, and both lists have them in their order.
  have places : ((List.finRange l.length).map σ).filter keyed =
      (List.finRange l.length).filter keyed := by
    have order := List.pairwise_lt_finRange l.length
    have moved : (((List.finRange l.length).map σ).filter keyed).Pairwise (· < ·) := by
      rw [List.pairwise_filter, List.pairwise_map]
      exact order.imp fun lt keyed_i keyed_j =>
        keeps _ _ lt k (of_decide_eq_true keyed_i) (of_decide_eq_true keyed_j)
    refine List.Perm.eq_of_pairwise ?_ moved (order.filter keyed)
      (σ.map_finRange_perm.filter keyed)
    exact fun i j _ _ lt gt => absurd lt (not_lt_of_gt gt)
  have whole : (List.finRange l.length).map l.get = l := List.map_get_finRange l
  calc ((List.finRange l.length).map (l.get ∘ σ)).filter (fun a => key a = some k)
      = (((List.finRange l.length).map σ).filter keyed).map l.get := by
        rw [← List.map_map, List.filter_map]
        rfl
    _ = ((List.finRange l.length).filter keyed).map l.get := by rw [places]
    _ = ((List.finRange l.length).map l.get).filter (fun a => key a = some k) := by
        rw [List.filter_map]
        rfl
    _ = l.filter (fun a => key a = some k) := by rw [whole]

end lists

/-! ## First values -/

section pairs

variable {α : Type} {pair? : α → Option (String × String)} {l l' : List α} {k : String}

/-- An item that has no pair with a name makes no difference to what is found under it. -/
lemma lookup_cons_of_ne {a : α} (other : (pair? a).map Prod.fst ≠ some k) :
    ((a :: l).filterMap pair?).lookup k = (l.filterMap pair?).lookup k := by
  rw [List.filterMap_cons]
  cases here : pair? a with
  | none => rfl
  | some pair =>
    rw [here] at other
    have differs : k ≠ pair.1 := fun same => other (congrArg some same.symm)
    rw [List.lookup_cons, beq_false_of_ne differs]

/-- The first value under a name is the first one of those elements that have the name. -/
lemma lookup_filter :
    ((l.filter fun a => (pair? a).map Prod.fst = some k).filterMap pair?).lookup k =
      (l.filterMap pair?).lookup k := by
  induction l with
  | nil => rfl
  | cons a l ih =>
    by_cases named : (pair? a).map Prod.fst = some k
    · obtain ⟨pair, here, rfl⟩ := Option.map_eq_some_iff.1 named
      rw [List.filter_cons_of_pos (by simpa using named), List.filterMap_cons, List.filterMap_cons,
        here, List.lookup_cons, List.lookup_cons, beq_self_eq_true]
    · rw [List.filter_cons_of_neg (by simpa using named), ih, lookup_cons_of_ne named]

/-- Rearranged items have the same first pair under a name. -/
lemma Rearranges.lookup_eq (same : Rearranges (fun a => (pair? a).map Prod.fst) l l') :
    (l'.filterMap pair?).lookup k = (l.filterMap pair?).lookup k := by
  rw [← lookup_filter, same.filter_eq k, lookup_filter]

/-- Items that have no pair with a name may be put anywhere without a difference to what is found
under it. -/
lemma Extends.lookup_eq {extra : α → Prop} (more : Extends extra l l')
    (others : ∀ a, extra a → (pair? a).map Prod.fst ≠ some k) :
    (l'.filterMap pair?).lookup k = (l.filterMap pair?).lookup k := by
  induction more with
  | nil => rfl
  | @keep a l l' _ ih =>
    cases here : pair? a with
    | none => rw [List.filterMap_cons_none here, List.filterMap_cons_none here, ih]
    | some pair =>
      rw [List.filterMap_cons_some here, List.filterMap_cons_some here, List.lookup_cons,
        List.lookup_cons, ih]
  | @insert a l l' extra_a _ ih => rw [lookup_cons_of_ne (others a extra_a), ih]

end pairs

/-! ## Segments -/

open Text

variable {path : Part '?'} {segments segments' : List (Part '&')}

/-- The pair that a segment of a form stands for, if it is not empty. -/
def segmentPair? (octets : List UInt8) : Option (String × String) :=
  if octets = [] then none else some (formPair octets)

/-- The pair that a segment of a query stands for. -/
def queryPair? (segment : Part '&') : Option (String × String) :=
  segmentPair? (Utf8.encode segment.items)

/-- The name in a segment of a query. -/
def queryName? (segment : Part '&') : Option String :=
  (queryPair? segment).map Prod.fst

/-- The pair that a segment of a body stands for. -/
def bodyPair? (segment : Part (0x26 : UInt8)) : Option (String × String) :=
  segmentPair? segment.items

/-- The name in a segment of a body. -/
def bodyName? (segment : Part (0x26 : UInt8)) : Option String :=
  (bodyPair? segment).map Prod.fst

/-- A path with a query of segments behind it. -/
def targetOf (path : Part '?') (segments : List (Part '&')) : String :=
  String.ofList (path.items ++ '?' :: joined segments)

/-- The pairs of octets between separators are those of the segments that are not empty. -/
lemma map_formPair_filter (octets : List (List UInt8)) :
    (octets.filter (· != [])).map formPair = octets.filterMap segmentPair? := by
  induction octets with
  | nil => rfl
  | cons segment octets ih =>
    by_cases empty : segment = []
    · subst empty
      exact ih
    · have kept : (segment != []) = true := bne_iff_ne.2 empty
      have pair : segmentPair? segment = some (formPair segment) := if_neg empty
      rw [List.filter_cons_of_pos (p := (· != [])) kept, List.map_cons, ih,
        List.filterMap_cons_some pair]

/-- The pairs of joined segments are those of each, in order. -/
lemma formPairs_joined (parts : List (Part (0x26 : UInt8))) :
    formPairs (joined parts) = parts.filterMap bodyPair? := by
  have whole : ∀ octets ∈ parts.map Part.items, 0x26 ∉ octets :=
    List.forall_mem_map.2 fun part _ => part.whole
  rw [joined, formPairs_intercalate whole, map_formPair_filter, List.filterMap_map]
  rfl

/-- The pairs of the query of a target are those of its segments, in order. -/
lemma formPairs_queryOf (path : Part '?') (segments : List (Part '&')) :
    formPairs (Utf8.encode (Request.queryOf (targetOf path segments).toList)) =
      segments.filterMap queryPair? := by
  have cut : Request.queryOf (targetOf path segments).toList = joined segments := by
    rw [targetOf, String.toList_ofList, Request.queryOf, dropWhile_ne_append path.whole]
    rfl
  -- The octet of the separator is that of no other character.
  have whole : ∀ octets ∈ (segments.map Part.items).map Utf8.encode, 0x26 ∉ octets := by
    rw [List.map_map, List.forall_mem_map]
    exact fun segment _ mem => segment.whole (Utf8.mem_of_octet_mem_encode (by decide) mem)
  rw [cut, joined, encode_intercalate, show Utf8.encode ['&'] = [0x26] from rfl,
    formPairs_intercalate whole, map_formPair_filter, List.map_map, List.filterMap_map]
  rfl

/-! ## Requests -/

variable {r r' : Request} {op : Operation} {body : Option (List UInt8)}

/-- The pairs of a body, if there is one. -/
def bodyPairs (body : Option (List UInt8)) : List (String × String) :=
  (body.map formPairs).getD []

/-- The path of a request is that of its target. -/
lemma Request.gpath_targetOf :
    (ofTarget (targetOf path segments) body).gpath =
      percentDecodeText (Utf8.encode path.items) := by
  have cut : pathOf (targetOf path segments).toList = path.items := by
    rw [targetOf, String.toList_ofList, pathOf, takeWhile_ne_append path.whole]
    exact List.append_nil _
  rw [ofTarget, cut]

/-- A request has a flag just if a segment of its query has that name. -/
lemma Request.hasFlag_targetOf (flag : String) :
    (ofTarget (targetOf path segments) body).hasFlag flag =
      ((segments.filterMap queryPair?).lookup flag).isSome := by
  rw [hasFlag, ofTarget, formPairs_queryOf]
  generalize segments.filterMap queryPair? = pairs
  rw [Bool.eq_iff_iff, List.contains_iff_mem, Option.isSome_iff_ne_none, ne_eq,
    lookup_eq_none_iff_not_mem, not_not]

/-- A value is taken from the body, or from the query if the body has none. -/
lemma Request.value_targetOf (name : String) :
    (ofTarget (targetOf path segments) body).value name =
      (((bodyPairs body).lookup name).or
        ((segments.filterMap queryPair?).lookup name)).getD "" := by
  rw [value, ofTarget, formPairs_queryOf, List.lookup_append]
  rfl

/-- An operation has a parameter that takes the value of a name. -/
def Operation.Takes (op : Operation) (name : String) : Prop :=
  ∃ p ∈ op.parameters, p.source = .form name

instance (op : Operation) (name : String) : Decidable (op.Takes name) :=
  inferInstanceAs (Decidable (∃ p ∈ op.parameters, p.source = .form name))

namespace Dispatch

open Coercion

/-- The operation that a request asks for, with its arguments or the error of one of them. -/
def asks (r : Request) : Except Failure (Operation × Except Coercion.Error (List Argument)) :=
  (select r).map fun op => (op, prepare op r)

/-- A name that means nothing in a query, where this is selected: it is no flag of an operation, and
no name that the selected one takes. -/
def Ignored (selected : Except Failure Operation) (name : String) : Prop :=
  (∀ op ∈ Operation.table, op.flag ≠ name) ∧ ∀ op, selected = .ok op → ¬ op.Takes name

/-- Requests with the same flags of operations select the same. -/
lemma select_congr (flags : ∀ op ∈ Operation.table, r'.hasFlag op.flag = r.hasFlag op.flag) :
    select r' = select r := by
  have found : Operation.find? r'.hasFlag = Operation.find? r.hasFlag :=
    List.find?_congr fun op mem => flags op mem
  rw [select, select, found]

/-- Arguments depend on the path, and on the values of the names that the operation takes. -/
lemma prepare_congr (path : r'.gpath = r.gpath)
    (values : ∀ name, op.Takes name → r'.value name = r.value name) :
    prepare op r' = prepare op r := by
  refine mapM_congr fun p mem => ?_
  unfold prepareOne
  cases source : p.source with
  | path => simp only [path]
  | form name => simp only [values name ⟨p, mem, source⟩]

/-- Requests with the same path, flags and values of the parameters ask the same. -/
lemma asks_congr (path : r'.gpath = r.gpath)
    (flags : ∀ op ∈ Operation.table, r'.hasFlag op.flag = r.hasFlag op.flag)
    (values : ∀ op, select r = .ok op → ∀ name, op.Takes name → r'.value name = r.value name) :
    asks r' = asks r := by
  rw [asks, asks, select_congr flags]
  cases selected : select r with
  | error e => rfl
  | ok op =>
    have same : prepare op r' = prepare op r := prepare_congr path (values op selected)
    simp only [Except.map, same]

/-- A request asks for the same with other segments in its query, if the first values are the same
under the flags of operations and under the names that the selected operation takes. -/
lemma asks_of_query (lookups : ∀ name, ¬ Ignored (select (.ofTarget (targetOf path segments) body))
      name → (segments'.filterMap queryPair?).lookup name =
        (segments.filterMap queryPair?).lookup name) :
    asks (.ofTarget (targetOf path segments') body) =
      asks (.ofTarget (targetOf path segments) body) := by
  refine asks_congr ?_ (fun op mem => ?_) fun op selected name takes => ?_
  · rw [Request.gpath_targetOf, Request.gpath_targetOf]
  · have flag := lookups op.flag fun ignored => ignored.1 op mem rfl
    rw [Request.hasFlag_targetOf, Request.hasFlag_targetOf, flag]
  · have value := lookups name fun ignored => ignored.2 op selected takes
    rw [Request.value_targetOf, Request.value_targetOf, value]

/-- Bodies with the same first values of the parameters make requests that ask the same. -/
lemma asks_of_body {body' : Option (List UInt8)}
    (lookups : ∀ op, select (.ofTarget (targetOf path segments) body) = .ok op →
      ∀ name, op.Takes name → (bodyPairs body').lookup name = (bodyPairs body).lookup name) :
    asks (.ofTarget (targetOf path segments) body') =
      asks (.ofTarget (targetOf path segments) body) := by
  refine asks_congr rfl (fun _ _ => rfl) fun op selected name takes => ?_
  rw [Request.value_targetOf, Request.value_targetOf, lookups op selected name takes]

/-- Whatever its path, the segments of its query and its body, a request asks for the same operation
with the same arguments, or with the same error of one of them, when the segments are rearranged so
that those of one name keep their order; when segments are inserted that are empty or whose name is
ignored; and when pairs are inserted into the body whose names the operation does not take. The
operation alone is the same for every body. -/
theorem asks_of_segments (path : Part '?') (segments : List (Part '&'))
    (body : Option (List UInt8)) :
    let r := Request.ofTarget (targetOf path segments) body
    (∀ segments', Rearranges queryName? segments segments' →
      asks (.ofTarget (targetOf path segments') body) = asks r) ∧
    (∀ segments',
      Extends (fun s => ∀ name, queryName? s = some name → Ignored (select r) name)
        segments segments' →
      asks (.ofTarget (targetOf path segments') body) = asks r) ∧
    (∀ pieces pieces' : Option (List (Part (0x26 : UInt8))), pieces.map joined = body →
      Extends (fun s => ∀ name, bodyName? s = some name →
          ∀ op, select r = .ok op → ¬ op.Takes name) (pieces.getD []) (pieces'.getD []) →
      asks (.ofTarget (targetOf path segments) (pieces'.map joined)) = asks r) ∧
    ∀ body', select (.ofTarget (targetOf path segments) body') = select r := by
  intro r
  refine ⟨fun segments' same => ?_, fun segments' more => ?_, fun pieces pieces' read more => ?_,
    fun body' => select_congr fun _ _ => rfl⟩
  · refine asks_of_query fun name _ => Rearranges.lookup_eq ?_
    exact same
  · refine asks_of_query fun name counts => ?_
    refine Extends.lookup_eq more fun s ignored here => ?_
    exact counts (ignored name here)
  · -- Flags come from the query, so of the body only values can differ.
    subst read
    have pairs (pieces : Option (List (Part (0x26 : UInt8)))) :
        bodyPairs (pieces.map joined) = (pieces.getD []).filterMap bodyPair? := by
      cases pieces with
      | none => rfl
      | some pieces => exact formPairs_joined pieces
    refine asks_of_body fun op selected name takes => ?_
    rw [pairs, pairs]
    refine Extends.lookup_eq more fun s foreign here => ?_
    exact foreign name here op selected takes

/-- A flag and two values of one name, which is spelled in two ways: the flag moves between the
values, and another operation's name and an empty segment come in. -/
theorem asks_of_segments_extents :
    let path : Part '?' := ⟨"/a".toList, by decide⟩
    let flag : Part '&' := ⟨"extents".toList, by decide⟩
    let first : Part '&' := ⟨"name%73pace=x".toList, by decide⟩
    let second : Part '&' := ⟨"namespace=y".toList, by decide⟩
    let other : Part '&' := ⟨"wkt=1".toList, by decide⟩
    let empty : Part '&' := ⟨[], by decide⟩
    let pair : Part (0x26 : UInt8) := ⟨Utf8.encodeString "wkt=2", by decide⟩
    let r := Request.ofTarget (targetOf path [flag, first, second]) none
    (select r = .ok .extents ∧ r.value "namespace" = "x") ∧
    asks (.ofTarget (targetOf path [first, flag, second]) none) = asks r ∧
    asks (.ofTarget (targetOf path [other, flag, first, empty, second]) none) = asks r ∧
    asks (.ofTarget (targetOf path [flag, first, second]) (some (joined [pair]))) = asks r ∧
    select (.ofTarget (targetOf path [flag, first, second]) (some [0x26])) = select r := by
  intro path flag first second other empty pair r
  have selected : select r = .ok .extents := by decide +kernel
  have foreign : ¬ Operation.extents.Takes "wkt" := by decide
  have swapped : Rearranges queryName? [flag, first, second] [first, flag, second] := by
    refine ⟨Equiv.swap 0 1, rfl, fun i j lt k here there => ?_⟩
    have order : ∀ i j : Fin 3, i < j →
        queryName? ([flag, first, second].get (Equiv.swap 0 1 i)) =
          queryName? ([flag, first, second].get (Equiv.swap 0 1 j)) →
        Equiv.swap 0 1 i < Equiv.swap 0 1 j := by decide +kernel
    exact order i j lt (here.trans there.symm)
  have extended : Extends (fun s => ∀ name, queryName? s = some name → Ignored (select r) name)
      [flag, first, second] [other, flag, first, empty, second] := by
    refine .insert (fun name here => ?_)
      (.keep (.keep (.insert (fun name here => ?_) (.keep .nil))))
    · have wkt : queryName? other = some "wkt" := by decide +kernel
      cases wkt.symm.trans here
      refine ⟨by decide, fun op here => ?_⟩
      cases selected.symm.trans here
      exact foreign
    · cases here
  have filled : Extends (fun s => ∀ name, bodyName? s = some name →
      ∀ op, select r = .ok op → ¬ op.Takes name) [] [pair] := by
    refine .insert (fun name here op there => ?_) .nil
    have wkt : bodyName? pair = some "wkt" := by decide +kernel
    cases wkt.symm.trans here
    cases selected.symm.trans there
    exact foreign
  obtain ⟨rearranged, inserted, posted, fixed⟩ := asks_of_segments path [flag, first, second] none
  exact ⟨⟨selected, by decide +kernel⟩, rearranged _ swapped, inserted _ extended,
    posted none (some [pair]) rfl filled, fixed _⟩

end Dispatch

end MetadataGateway
