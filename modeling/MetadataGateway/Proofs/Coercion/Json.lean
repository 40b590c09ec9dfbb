import MetadataGateway.Coercion
import MetadataGateway.Proofs.Json.Reading

/-!
# JSON arguments

A value whose numbers are integers comes through a text, whatever blanks stand between the tokens of
the text and in whatever order the members of its objects do (`coerce_json_text`); it arrives with
its members in order, and what has arrived once arrives again. Null comes through as a value that is
null, and not as the null of its type. An object that begins with the member that quotes a value
does not come through: what arrives is the value that it quotes (`ofText_quoted`), or nothing if it
has other members (`ofText_quoted_cons`).
-/

namespace MetadataGateway.Coercion

open Json

variable {v : Json} {raw : String}

/-- A value arrives from the texts that hold it: the empty text holds nothing. -/
lemma coerce_json_eq_ok_iff :
    coerce .json raw = .ok (.json (some v)) ↔ Json.ofText raw.toList = .ok v := by
  by_cases empty : raw = ""
  · subst empty
    exact ⟨nofun, nofun⟩
  · rw [coerce, if_neg empty]
    simp only [jsonOf]
    cases Json.ofText raw.toList <;> simp [Except.map]

/-- A value whose numbers are integers of 64 bits, nested at most 127 levels deep, is the argument
that its text stands for, with the members of its objects in order, and so it is with blanks
anywhere between the tokens of the text; it is no null of its type, even if it is null. What has
arrived once arrives from its own text again. -/
theorem coerce_json_text (fits : Fits 127 v) (unquoted : Unquoted v) :
    (v.tokens.flatten = v.text.toList ∧ coerce .json v.text = .ok (.json (some v.sorted))) ∧
    (Argument.json (some v.sorted)).isNull = false ∧
    (∀ raw : String, Spaced v.tokens raw.toList →
      coerce .json raw = .ok (.json (some v.sorted))) ∧
    ∀ raw a, coerce .json raw = .ok a → a = .json (some v) →
      coerce .json a.toJson.text = .ok a := by
  have spaced (raw : String) (here : Spaced v.tokens raw.toList) :
      coerce .json raw = .ok (.json (some v.sorted)) :=
    coerce_json_eq_ok_iff.2 (ofText_of_spaced fits unquoted here)
  have spelled : v.tokens.flatten = v.text.toList := by
    rw [flatten_tokens, Json.text, String.toList_ofList]
  have compact : coerce .json v.text = .ok (.json (some v.sorted)) :=
    spaced v.text (spelled ▸ Spaced.flatten v.tokens)
  refine ⟨⟨spelled, compact⟩, rfl, spaced, ?_⟩
  rintro raw _ arrived rfl
  have ordered : v.Ordered := ordered_of_ofText (coerce_json_eq_ok_iff.1 arrived)
  rw [sorted_of_ordered ordered] at compact
  exact compact

/-- An object with its members out of order and with blanks between its tokens, and what arrives for
it, which arrives from its own text again. -/
theorem coerce_json_text_blanks :
    let u := Json.object [("a", .null), ("b", .integer (-1))]
    coerce .json "\x7b \"b\": -1,\n\t\"a\":null \x7d" = .ok (.json (some u)) ∧
    coerce .json (Argument.json (some u)).toJson.text = .ok (.json (some u)) := by
  intro u
  let v := Json.object [("b", .integer (-1)), ("a", .null)]
  have fits : Fits 127 v :=
    .object (by decide) (List.forall_mem_cons.2 ⟨.integer (by decide) (by decide),
      List.forall_mem_singleton.2 .null⟩)
  have unquoted : Unquoted v :=
    .object (by rintro _ ⟨⟩; decide) (List.forall_mem_cons.2 ⟨.integer,
      List.forall_mem_singleton.2 .null⟩)
  have fits_u : Fits 127 u :=
    .object (by decide) (List.forall_mem_cons.2 ⟨.null,
      List.forall_mem_singleton.2 (.integer (by decide) (by decide))⟩)
  have unquoted_u : Unquoted u :=
    .object (by rintro _ ⟨⟩; decide) (List.forall_mem_cons.2 ⟨.null,
      List.forall_mem_singleton.2 .integer⟩)
  have in_order : v.sorted = u := sorted_object (by decide)
  have spaced : Spaced v.tokens "\x7b \"b\": -1,\n\t\"a\":null \x7d".toList :=
    .close <| @Spaced.token [' '] _ _ _ (List.all_eq_true.1 (by decide)) <| .close <|
    @Spaced.token [' '] _ _ _ (List.all_eq_true.1 (by decide)) <| .close <|
    @Spaced.token ['\n', '\t'] _ _ _ (List.all_eq_true.1 (by decide)) <| .close <| .close <|
    @Spaced.token [' '] _ _ _ (List.all_eq_true.1 (by decide)) <| .done nofun
  have arrived := in_order ▸ (coerce_json_text fits unquoted).2.2.1 _ spaced
  exact ⟨arrived, (coerce_json_text fits_u unquoted_u).2.2.2 _ _ arrived rfl⟩

/-- An object whose only member has the name that quotes: what arrives is the value that is quoted,
and not the object. An object with another member comes first through a text that begins with that
member, and then, with its members in order, through its own text no more. -/
theorem coerce_json_quoted :
    let v := Json.object [(quotedName, .string "null")]
    let w := Json.object [("a", .integer 1), (quotedName, .string "null")]
    let u := Json.object [(quotedName, .string "null"), ("a", .integer 1)]
    (Fits 127 v ∧ coerce .json v.text = .ok (.json (some .null)) ∧
      coerce .json v.text ≠ .ok (.json (some v))) ∧
    Fits 127 u ∧ coerce .json w.text = .ok (.json (some u)) ∧
      coerce .json (Argument.json (some u)).toJson.text ≠ .ok (.json (some u)) := by
  intro v w u
  have quoted : coerce .json v.text = .ok (.json (some .null)) := by
    rw [coerce_json_eq_ok_iff, Json.text, String.toList_ofList]
    exact ofText_quoted (v := .null) .null .null
  have fits : Fits 127 w :=
    .object (by decide) (List.forall_mem_cons.2 ⟨.integer (by decide) (by decide),
      List.forall_mem_singleton.2 .string⟩)
  have unquoted : Unquoted w :=
    .object (by rintro _ ⟨⟩; decide) (List.forall_mem_cons.2 ⟨.integer,
      List.forall_mem_singleton.2 .string⟩)
  have in_order : w.sorted = u := sorted_object (by decide)
  refine ⟨⟨.object (by simp) (List.forall_mem_singleton.2 .string), quoted, ?_⟩, ?_, ?_, ?_⟩
  · rw [quoted]
    exact fun same => Json.noConfusion (Option.some.inj (Argument.json.inj (Except.ok.inj same)))
  · exact .object (by decide) (List.forall_mem_cons.2 ⟨.string,
      List.forall_mem_singleton.2 (.integer (by decide) (by decide))⟩)
  · rw [coerce_json_eq_ok_iff, Json.text, String.toList_ofList, ← in_order, ← flatten_tokens]
    exact ofText_of_spaced fits unquoted (Spaced.flatten _)
  · rw [Ne, coerce_json_eq_ok_iff, Json.text, String.toList_ofList]
    exact ofText_quoted_cons

end MetadataGateway.Coercion
