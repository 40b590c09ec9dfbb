import MetadataGateway.Proofs.Text.Encoding
import MetadataGateway.Request

/-!
# Requests are read as they were written

A client has a path, the pairs of a query and the pairs of a form, and writes them as a target and a
body, in any of the spellings that there are. The request that is read from these has the path, the
names of the query as its flags, and the pairs of the form before those of the query as its values.
-/

namespace MetadataGateway

open Text

/-- The ways to write a path and the pairs of a query as a target. -/
inductive SpellsTarget : String → List (String × String) → List Char → Prop where
  | bare {path text} :
    Spells .path (Utf8.encodeString path) text →
    SpellsTarget path [] text
  | query {path pairs pathText queryText} :
    pairs ≠ [] →
    Spells .path (Utf8.encodeString path) pathText →
    SpellsForm pairs queryText →
    SpellsTarget path pairs (pathText ++ '?' :: queryText)

/-- The path of a target is read as it was written. -/
lemma SpellsTarget.path {path pairs text} (spells : SpellsTarget path pairs text) :
    percentDecodeText (Utf8.encode (Request.pathOf text)) = path := by
  -- No spelling has a question mark, so the first one is where the query begins.
  have cut : ∀ {pathText}, Spells .path (Utf8.encodeString path) pathText →
      ∀ back, Request.pathOf (pathText ++ back) = pathText ++ Request.pathOf back :=
    fun spelled back => takeWhile_ne_append (spelled.separator_not_mem (by decide)) back
  cases spells with
  | bare spelled =>
    have whole : Request.pathOf text = text := by simpa [Request.pathOf] using cut spelled []
    rw [whole, spelled.pathText]
  | query _ spelled _ =>
    rw [cut spelled, show ∀ back, Request.pathOf ('?' :: back) = [] from fun _ => rfl,
      List.append_nil, spelled.pathText]

/-- The pairs of the query of a spelled target are those that it spells. -/
lemma SpellsTarget.formPairs {path pairs text} (spells : SpellsTarget path pairs text) :
    formPairs (Utf8.encode (Request.queryOf text)) = pairs := by
  have cut : ∀ {pathText}, Spells .path (Utf8.encodeString path) pathText →
      ∀ back, Request.queryOf (pathText ++ back) = Request.queryOf back :=
    fun spelled back =>
      congrArg (List.drop 1) (dropWhile_ne_append (spelled.separator_not_mem (by decide)) back)
  cases spells with
  | bare spelled =>
    have none : Request.queryOf text = [] := by simpa [Request.queryOf] using cut spelled []
    rw [none]
    rfl
  | query _ spelled form =>
    rw [cut spelled]
    exact form.formPairs

/-- What is found under a name is the value of the first pair with it. -/
lemma lookup_eq_find? (pairs : List (String × String)) (name : String) :
    pairs.lookup name = (pairs.find? fun pair => pair.1 = name).map Prod.snd := by
  induction pairs with
  | nil => rfl
  | cons pair rest ih =>
    obtain ⟨k, v⟩ := pair
    rw [List.lookup_cons, List.find?_cons]
    by_cases same : k = name
    · simp [same]
    · have other : (name == k) = false := by simpa using fun h => same h.symm
      simp [same, other, ih]

/-- A request is read from its target and its body as it was written: whatever the spelling, the
path is the one that was meant, the flags are the names of the query, the value of a name is the
first one in the form and then the query, and there are values of the body if the form has pairs. -/
theorem Request.ofTarget_spelled {path target : String} {query form : List (String × String)}
    {body : List Char} (inTarget : SpellsTarget path query target.toList)
    (inBody : SpellsForm form body) :
    let r := Request.ofTarget target (some (Utf8.encode body))
    r.uri = target ∧
    r.gpath = path ∧
    (∀ flag, r.hasFlag flag = true ↔ ∃ value, (flag, value) ∈ query) ∧
    (∀ name, r.value name =
      (((form ++ query).find? fun pair => pair.1 = name).map Prod.snd).getD "") ∧
    (r.hasBodyValues = true ↔ form ≠ []) := by
  have read : Request.ofTarget target (some (Utf8.encode body)) =
      ⟨target, path, query.map Prod.fst, form ++ query, form != []⟩ := by
    simp only [Request.ofTarget, Option.map_some, Option.getD_some, inTarget.path,
      inTarget.formPairs, inBody.formPairs]
  intro r
  have same : r = ⟨target, path, query.map Prod.fst, form ++ query, form != []⟩ := read
  rw [same]
  refine ⟨rfl, rfl, fun flag => ?_, fun name => ?_, bne_iff_ne⟩
  · simp [hasFlag]
  · rw [value, lookup_eq_find?]

/-- A target and a body that use every kind of spelling. -/
theorem Request.ofTarget_spelled_mixed :
    (SpellsTarget "/é" [("a b", "&"), ("q", "")] "/%C3%a9?a+%62=%26&q".toList ∧
      SpellsForm [("q", "+")] "%71=%2B".toList) ∧
    let r := Request.ofTarget "/%C3%a9?a+%62=%26&q" (some (Utf8.encode "%71=%2B".toList))
    r.uri = "/%C3%a9?a+%62=%26&q" ∧
    r.gpath = "/é" ∧
    (∀ flag, r.hasFlag flag = true ↔ ∃ value, (flag, value) ∈ [("a b", "&"), ("q", "")]) ∧
    (∀ name, r.value name =
      ((([("q", "+")] ++ [("a b", "&"), ("q", "")]).find? fun pair => pair.1 = name).map
        Prod.snd).getD "") ∧
    (r.hasBodyValues = true ↔ [("q", "+")] ≠ []) := by
  have path : Spells .path (Utf8.encodeString "/é") "/%C3%a9".toList :=
    .cons (.plain (c := '/') rfl) (.cons (.escaped (x := 12) (y := 3) rfl rfl rfl)
      (.cons (.escaped (x := 10) (y := 9) rfl rfl rfl) .nil))
  have ab : Spells .field (Utf8.encodeString "a b") "a+%62".toList :=
    .cons (.plain (c := 'a') rfl) (.cons (.plus rfl)
      (.cons (.escaped (x := 6) (y := 2) rfl rfl rfl) .nil))
  have amp : Spells .field (Utf8.encodeString "&") "%26".toList :=
    .cons (.escaped (x := 2) (y := 6) rfl rfl rfl) .nil
  have q : Spells .field (Utf8.encodeString "q") "q".toList := .cons (.plain (c := 'q') rfl) .nil
  have q' : Spells .field (Utf8.encodeString "q") "%71".toList :=
    .cons (.escaped (x := 7) (y := 1) rfl rfl rfl) .nil
  have plus : Spells .field (Utf8.encodeString "+") "%2B".toList :=
    .cons (.escaped (x := 2) (y := 11) rfl rfl rfl) .nil
  have query : SpellsForm [("a b", "&"), ("q", "")] "a+%62=%26&q".toList :=
    .intro (.cons (.full ab amp) (.cons (.short (by decide) q) .nil))
  have inTarget : SpellsTarget "/é" [("a b", "&"), ("q", "")] "/%C3%a9?a+%62=%26&q".toList :=
    .query (by decide) path query
  have inBody : SpellsForm [("q", "+")] "%71=%2B".toList :=
    .intro (.cons (.full q' plus) .nil)
  exact ⟨⟨inTarget, inBody⟩, Request.ofTarget_spelled inTarget inBody⟩

end MetadataGateway
