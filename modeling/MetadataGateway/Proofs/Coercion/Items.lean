import MetadataGateway.Coercion
import MetadataGateway.Proofs.Lists

/-!
# Lists and their texts

A text that is not empty is coerced to the list of its items, and the items joined by commas are the
text again (`intercalate_itemsOf`). Every list of items without commas in them comes of its text
(`itemsOf_intercalate`), but for the list of one empty item, whose text is empty and stands for the
null. So lists and texts determine each other (`coerce_textList`); nothing is trimmed or left out.
-/

namespace MetadataGateway.Coercion

variable {raw item : String} {items : List String}

/-- No item has a comma in it. -/
def CommaFree (items : List String) : Prop :=
  ∀ item ∈ items, ',' ∉ item.toList

instance (items : List String) : Decidable (CommaFree items) :=
  decidable_of_iff (items.all (!·.toList.contains ',') = true) (by simp [CommaFree])

/-- The items of a text, joined, are the text. -/
lemma intercalate_itemsOf (raw : String) : ",".intercalate (itemsOf raw.toList) = raw := by
  have parts : (itemsOf raw.toList).map String.toList = raw.toList.splitOn ',' := by
    simp only [itemsOf, List.map_map, Function.comp_def, String.toList_ofList, List.map_id']
  apply String.toList_inj.1
  calc (",".intercalate (itemsOf raw.toList)).toList
      = [','].intercalate (raw.toList.splitOn ',') := by
        rw [String.toList_intercalate, parts]
        rfl
    _ = raw.toList := List.intercalate_splitOn ','

/-- The items of a text have no comma in them. -/
lemma commaFree_itemsOf (raw : String) : CommaFree (itemsOf raw.toList) := by
  intro item mem
  obtain ⟨part, here, rfl⟩ := List.mem_map.1 mem
  rw [String.toList_ofList]
  exact not_mem_of_mem_splitOn here

/-- A text has one item more than it has commas. -/
lemma length_itemsOf (raw : String) :
    (itemsOf raw.toList).length = raw.toList.count ',' + 1 := by
  rw [itemsOf, List.length_map, length_splitOn]

/-- Items without commas in them are the items of what they are joined to. -/
lemma itemsOf_intercalate (some_item : items ≠ []) (free : CommaFree items) :
    itemsOf (",".intercalate items).toList = items := by
  have parts : (",".intercalate items).toList.splitOn ',' = items.map String.toList := by
    rw [String.toList_intercalate]
    refine List.splitOn_intercalate ',' ?_ (mt List.map_eq_nil_iff.1 some_item)
    rintro _ mem
    obtain ⟨item, here, rfl⟩ := List.mem_map.1 mem
    exact free item here
  rw [itemsOf, parts, List.map_map]
  simp only [Function.comp_def, String.ofList_toList, List.map_id']

/-- Of the lists of items without commas, only that of one empty item has the empty text. -/
lemma intercalate_eq_empty_iff (some_item : items ≠ []) (free : CommaFree items) :
    ",".intercalate items = "" ↔ items = [""] := by
  constructor
  · intro joined
    have back := itemsOf_intercalate some_item free
    rw [joined] at back
    exact back.symm
  · rintro rfl
    rfl

/-- A text that is not empty is coerced to its items. -/
lemma coerce_textList_of_ne (some_text : raw ≠ "") :
    coerce .textList raw = .ok (.textList (some (itemsOf raw.toList))) := by
  rw [coerce, if_neg some_text]

/-- A text that is not empty is coerced to a list whose items, joined by commas, are the text; no
item has a comma in it, and there is one item more than there are commas in the text. Every list
that has items, none of them with a comma, and is not the list of one empty item, is what its joined
items are coerced to. No two texts that are not empty are coerced to the same list. -/
theorem coerce_textList :
    (∀ raw : String, raw ≠ "" → ∃ items : List String,
      coerce .textList raw = .ok (.textList (some items)) ∧
      ",".intercalate items = raw ∧
      CommaFree items ∧
      items.length = raw.toList.count ',' + 1) ∧
    (∀ items : List String, items ≠ [] → items ≠ [""] → CommaFree items →
      coerce .textList (",".intercalate items) = .ok (.textList (some items))) ∧
    (∀ raw raw' : String, raw ≠ "" → raw' ≠ "" →
      coerce .textList raw = coerce .textList raw' → raw = raw') := by
  refine ⟨?split, ?joined, ?injective⟩
  case split =>
    intro raw some_text
    exact ⟨itemsOf raw.toList, coerce_textList_of_ne some_text, intercalate_itemsOf raw,
      commaFree_itemsOf raw, length_itemsOf raw⟩
  case joined =>
    intro items some_item other free
    have some_text : ",".intercalate items ≠ "" :=
      fun empty => other ((intercalate_eq_empty_iff some_item free).1 empty)
    rw [coerce_textList_of_ne some_text, itemsOf_intercalate some_item free]
  case injective =>
    intro raw raw' some_text some_text' same
    rw [coerce_textList_of_ne some_text, coerce_textList_of_ne some_text'] at same
    simp only [Except.ok.injEq, Argument.textList.injEq, Option.some.injEq] at same
    rw [← intercalate_itemsOf raw, same, intercalate_itemsOf]

/-- White space and empty items stay as they are, at the ends too. -/
theorem coerce_textList_blank :
    (∃ items, coerce .textList ", a,,b " = .ok (.textList (some items)) ∧
      ",".intercalate items = ", a,,b " ∧ CommaFree items ∧ items.length = 4) ∧
    coerce .textList (",".intercalate ["", " a", "", "b "]) =
      .ok (.textList (some ["", " a", "", "b "])) ∧
    coerce .textList ", a,,b " ≠ coerce .textList " a,b" := by
  obtain ⟨split, joined, injective⟩ := coerce_textList
  refine ⟨split ", a,,b " (by decide), ?_, fun same => ?_⟩
  · exact joined _ (by decide) (by decide) (by decide)
  · exact absurd (injective _ _ (by decide) (by decide) same) (by decide)

end MetadataGateway.Coercion
