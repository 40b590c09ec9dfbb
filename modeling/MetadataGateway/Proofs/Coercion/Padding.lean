import MetadataGateway.Proofs.Coercion.Integer
import MetadataGateway.Proofs.Timestamp.ZoneName

/-!
# White space and the name of UTC around a value

Of a text that stands for an integer, a floating-point number or a timestamp only what is left of
trimming counts, for the value as well as for the error (`coerce_of_trim_eq`). Behind a timestamp
the name of UTC, with any white space before it, makes no difference either, unless the name is
there already (`coerce_padded`). The empty text is not trimmed first: it is the null of its type,
and white space alone is not.
-/

namespace MetadataGateway.Coercion

open Text

variable {raw raw' : String}

/-- A text that is not empty is read as a floating-point number. -/
lemma coerce_float_of_ne (some_text : raw ≠ "") :
    coerce .float raw = (floatOf raw.toList).map fun x => .float (some x) := by
  rw [coerce, if_neg some_text]

/-- A text that is not empty is read as a timestamp. -/
lemma coerce_timestamp_of_ne (some_text : raw ≠ "") :
    coerce .timestamp raw = (timestampOf raw.toList).map fun t => .timestamp (some t) := by
  rw [coerce, if_neg some_text]

/-- Texts that are read as the same timestamp, or both as none, are coerced alike. -/
lemma coerce_of_read?_eq (some_text : raw ≠ "") (some_text' : raw' ≠ "")
    (same : Timestamp.read? raw.toList = Timestamp.read? raw'.toList) :
    coerce .timestamp raw = coerce .timestamp raw' := by
  rw [coerce_timestamp_of_ne some_text, coerce_timestamp_of_ne some_text', timestampOf,
    timestampOf, same]

/-- Numbers and timestamps are coerced alike if what is left of trimming is the same. -/
lemma coerce_of_trim_eq {kind : Kind} (mem : kind ∈ [Kind.integer, .float, .timestamp])
    (some_text : raw ≠ "") (some_text' : raw' ≠ "") (same : trim raw.toList = trim raw'.toList) :
    coerce kind raw = coerce kind raw' := by
  simp only [List.mem_cons, List.not_mem_nil, or_false] at mem
  rcases mem with rfl | rfl | rfl
  · rw [coerce_integer_of_ne some_text, coerce_integer_of_ne some_text', same]
  · rw [coerce_float_of_ne some_text, coerce_float_of_ne some_text', floatOf, floatOf, same]
  · exact coerce_of_read?_eq some_text some_text' (Timestamp.read?_congr same)

/-- With white space on either side, a text that is not empty is coerced to the same integer,
floating-point number or timestamp, or refused with the same error. With white space and the name of
UTC behind it, it is coerced to the same timestamp or refused alike, unless what is left of trimming
ends in the name already; then it is refused. -/
theorem coerce_padded (some_text : raw ≠ "") :
    (∀ kind ∈ [Kind.integer, .float, .timestamp], ∀ before after : String,
      Blank before.toList → Blank after.toList →
        coerce kind (before ++ raw ++ after) = coerce kind raw) ∧
    (∀ between : String, Blank between.toList → ¬ " UTC".toList <:+ trim raw.toList →
      coerce .timestamp (raw ++ between ++ " UTC") = coerce .timestamp raw) ∧
    (∀ between : String, Blank between.toList → " UTC".toList <:+ trim raw.toList →
      coerce .timestamp (raw ++ between ++ " UTC") = .error .notATimestamp) := by
  have some_name (between : String) : raw ++ between ++ " UTC" ≠ "" :=
    fun empty => absurd (String.append_eq_empty_iff.1 empty).2 (by decide)
  have parts (between : String) : (raw ++ between ++ " UTC").toList =
      (raw.toList ++ between.toList) ++ Timestamp.zoneName := by
    rw [String.toList_append, String.toList_append]
    rfl
  refine ⟨?padding, ?name, ?again⟩
  case padding =>
    intro kind mem before after before_blank after_blank
    have some_more : before ++ raw ++ after ≠ "" := by
      intro empty
      have front := (String.append_eq_empty_iff.1 empty).1
      exact some_text (String.append_eq_empty_iff.1 front).2
    refine coerce_of_trim_eq mem some_more some_text ?_
    rw [String.toList_append, String.toList_append, trim_padded before_blank _ after_blank]
  case name =>
    intro between blank unnamed
    have same := trim_append raw.toList blank
    refine coerce_of_read?_eq (some_name between) some_text ?_
    rw [parts, Timestamp.read?_append_zoneName (same ▸ unnamed), Timestamp.read?_congr same]
  -- The name of UTC is taken off once, and what is left ends in it still.
  case again =>
    intro between blank named
    have same := trim_append raw.toList blank
    have refused := Timestamp.read?_append_zoneName_of_named (same ▸ named)
    rw [coerce_timestamp_of_ne (some_name between), parts, timestampOf, refused]
    rfl

/-- Wide spaces and control characters around an integer and around no number, the name of UTC
behind a date, and the same name behind it once more. -/
theorem coerce_padded_named :
    coerce .integer ("\u3000" ++ "+42" ++ "\n\u0085") = .ok (.integer (some 42)) ∧
    coerce .float ("\t" ++ "one" ++ " ") = .error .invalidFloat ∧
    coerce .timestamp (" 2017-03-01" ++ "\u2003\t" ++ " UTC") =
      .ok (.timestamp (some ⟨1488326400, 0⟩)) ∧
    coerce .timestamp ("2017-03-01 UTC" ++ "" ++ " UTC") = .error .notATimestamp := by
  refine ⟨?_, ?_, ?_, ?_⟩
  · rw [(coerce_padded (by decide)).1 .integer (by decide) _ _ (by decide) (by decide)]
    rfl
  · rw [(coerce_padded (by decide)).1 .float (by decide) _ _ (by decide) (by decide)]
    rfl
  · rw [(coerce_padded (by decide)).2.1 _ (by decide) (by decide)]
    rfl
  · exact (coerce_padded (by decide)).2.2 _ (by decide) (by decide)

/-- The empty text is set apart: the name of UTC behind it is no null. -/
example : coerce .timestamp "" = .ok (.timestamp none) ∧
    coerce .timestamp ("" ++ " " ++ " UTC") = .error .notATimestamp := ⟨rfl, rfl⟩

end MetadataGateway.Coercion
