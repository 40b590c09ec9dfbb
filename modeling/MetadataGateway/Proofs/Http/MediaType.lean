import MetadataGateway.Http.Handler
import MetadataGateway.Proofs.Lists
import MetadataGateway.Proofs.Text.Blank

/-!
# Media types of forms

The media type of a content type stands before its parameters. A content type is taken for that of a
form just if its media type begins with that of forms (`isFormType_iff`), whatever white space,
whatever case and whatever parameters it is written with. So a form does not count just if there are
octets in its parameters that are no visible characters, and a body counts that is no form just if
the name of its media type is longer than that of forms and begins with it (`hasFormBody_iff`).
-/

namespace MetadataGateway.Http.Message

open Text

variable {contentType front : List Char} {c : Char}

/-- A message has a media type: the octets of its content type before the first semicolon, as a text
in small letters, without the white space around it. -/
def HasMediaType (headers : List Header) (type : List Char) : Prop :=
  ∃ octets text, header? headers "content-type" = some octets ∧
    visibleText? (octets.takeWhile (· != 0x3B)) = some text ∧ (trim text).map Char.toLower = type

/-- All octets of the content type of a message, those of the parameters too, are visible ASCII
characters, spaces or tabs. -/
def HasVisibleType (headers : List Header) : Prop :=
  ∀ octets, header? headers "content-type" = some octets →
    ∀ b ∈ octets, (0x20 ≤ b ∧ b ≤ 0x7E) ∨ b = 0x09

/-- White space has no small letters. -/
lemma toLower_of_blank (blank : isBlank c = true) : c.toLower = c := by
  have small : ¬ (c.val ≥ 'A'.val ∧ c.val ≤ 'Z'.val) := by
    rintro ⟨low, high⟩
    have low' : 65 ≤ c.toNat := low
    have high' : c.toNat ≤ 90 := high
    have none : ∀ n < 91, 65 ≤ n → isBlank (Char.ofNat n) = false := by decide
    have solid := none c.toNat (by omega) low'
    rw [Char.ofNat_toNat, blank] at solid
    cases solid
  exact dif_neg small

/-- Neither white space nor a semicolon is a letter of the media type of forms. -/
lemma plain_of_toLower_mem (mem : c.toLower ∈ formMediaType) : isBlank c = false ∧ c ≠ ';' := by
  have solid : Solid formMediaType := by decide
  constructor
  · by_contra blank
    rw [Bool.not_eq_false] at blank
    rw [toLower_of_blank blank] at mem
    rw [solid c mem] at blank
    cases blank
  · rintro rfl
    exact absurd mem (by decide)

/-- What spells the media type of forms stands in front of a content type, behind white space, just
if it stands in front of what is before the first semicolon, without white space around it. -/
lemma prefix_trim_iff (spelled : front.map Char.toLower = formMediaType) :
    front <+: trim (contentType.takeWhile (· != ';')) ↔ front <+: trimStart contentType := by
  have plain (c : Char) (mem : c ∈ front) : isBlank c = false ∧ c ≠ ';' := by
    refine plain_of_toLower_mem ?_
    rw [← spelled]
    exact List.mem_map_of_mem mem
  have absent : ';' ∉ front := fun mem => (plain _ mem).2 rfl
  have started : trimStart (contentType.takeWhile (· != ';')) =
      (trimStart contentType).takeWhile (· != ';') := by
    refine dropWhile_takeWhile_comm ?_ contentType
    rintro c blank
    refine bne_iff_ne.2 ?_
    rintro rfl
    exact absurd blank (by decide)
  rw [trim, prefix_trimEnd_iff fun c mem => (plain c mem).1, started,
    prefix_takeWhile_ne_iff absent]

/-- A content type is taken for that of a form just if its media type begins like that of forms. -/
lemma isFormType_iff (contentType : List Char) :
    isFormType contentType = true ↔
      formMediaType <+: (trim (contentType.takeWhile (· != ';'))).map Char.toLower := by
  rw [isFormType, List.isPrefixOf_iff_prefix, List.prefix_map_iff, List.prefix_map_iff]
  constructor
  · rintro ⟨front, here, spelled⟩
    exact ⟨front, (prefix_trim_iff spelled.symm).2 here, spelled⟩
  · rintro ⟨front, here, spelled⟩
    exact ⟨front, (prefix_trim_iff spelled.symm).1 here, spelled⟩

/-- Octets are a text just if all of them are visible characters, spaces or tabs. -/
lemma visibleText?_eq_some_iff {octets : List UInt8} {text : List Char} :
    visibleText? octets = some text ↔
      (∀ b ∈ octets, (0x20 ≤ b ∧ b ≤ 0x7E) ∨ b = 0x09) ∧
        octets.map (fun b => Char.ofNat b.toNat) = text := by
  rw [visibleText?, Option.ite_none_right_eq_some, List.all_eq_true, Option.some.injEq]
  simp only [Bool.or_eq_true, Bool.and_eq_true, decide_eq_true_eq]

/-- An octet is a semicolon just if its character is. -/
lemma semicolon_iff (b : UInt8) : (Char.ofNat b.toNat != ';') = (b != 0x3B) := by
  have all : ∀ n < 256, (Char.ofNat n != ';') = (UInt8.ofNat n != 0x3B) := by decide +kernel
  simpa using all b.toNat b.toNat_lt

/-- The octets before the first semicolon of a text are what stands there in the text. -/
lemma visibleText?_takeWhile {octets : List UInt8} {text : List Char}
    (whole : visibleText? octets = some text) :
    visibleText? (octets.takeWhile (· != 0x3B)) = some (text.takeWhile (· != ';')) := by
  obtain ⟨visible, rfl⟩ := visibleText?_eq_some_iff.1 whole
  refine visibleText?_eq_some_iff.2 ⟨fun b mem => ?_, ?_⟩
  · exact visible b ((List.takeWhile_sublist _).mem mem)
  · rw [List.takeWhile_map]
    congr 2
    exact funext fun b => (semicolon_iff b).symm

/-- The methods that have forms. -/
lemma isFormMethod_iff (method : String) :
    (method == "POST" || method == "PUT" || method == "PATCH") = true ↔
      method ∈ ["POST", "PUT", "PATCH"] := by
  simp [or_assoc]

/-- A content type is taken for that of a form just if all of its octets are visible and its media
type begins like that of forms. -/
lemma headerText?_isFormType_iff (headers : List Header) :
    ((headerText? headers "content-type").map isFormType).getD false = true ↔
      HasVisibleType headers ∧ ∃ beyond, HasMediaType headers (formMediaType ++ beyond) := by
  unfold HasVisibleType HasMediaType headerText?
  cases header? headers "content-type" with
  | none => simp
  | some octets =>
    rw [Option.bind_some]
    constructor
    · intro counted
      cases whole : visibleText? octets with
      | none => simp [whole] at counted
      | some text =>
        rw [whole, Option.map_some, Option.getD_some, isFormType_iff] at counted
        obtain ⟨beyond, same⟩ := counted
        refine ⟨?_, beyond, octets, _, rfl, visibleText?_takeWhile whole, same.symm⟩
        rintro _ ⟨⟩
        exact (visibleText?_eq_some_iff.1 whole).1
    · rintro ⟨visible, beyond, _, front, ⟨⟩, before, same⟩
      have whole := visibleText?_eq_some_iff.2 ⟨visible octets rfl, rfl⟩
      rw [visibleText?_takeWhile whole] at before
      cases before
      rw [whole, Option.map_some, Option.getD_some, isFormType_iff]
      exact ⟨beyond, same.symm⟩

/-- The body of a message counts as a form just if its method is POST, PUT or PATCH, all octets of
its content type are visible, and its media type is that of forms, or a longer name that begins with
that of forms. So there are two ways in which what counts differs from the forms: a form with other
octets in its parameters does not count, and a body with such a longer name does. -/
theorem hasFormBody_iff (method : String) (headers : List Header) :
    hasFormBody method headers = true ↔
      method ∈ ["POST", "PUT", "PATCH"] ∧ HasVisibleType headers ∧
        (HasMediaType headers formMediaType ∨
          ∃ beyond ≠ [], HasMediaType headers (formMediaType ++ beyond)) := by
  rw [hasFormBody, Bool.and_eq_true, isFormMethod_iff, headerText?_isFormType_iff]
  refine and_congr_right fun _ => and_congr_right fun _ => ⟨?_, ?_⟩
  · rintro ⟨beyond, longer⟩
    by_cases none : beyond = []
    · subst none
      exact .inl (List.append_nil formMediaType ▸ longer)
    · exact .inr ⟨beyond, none, longer⟩
  · rintro (same | ⟨beyond, -, longer⟩)
    · exact ⟨[], (List.append_nil formMediaType).symm ▸ same⟩
    · exact ⟨beyond, longer⟩

/-- A body with a longer media type: it is read as a form, and its value takes the place of the one
in the query. And a form with an octet in its parameters that is not visible, which does not count.
-/
theorem hasFormBody_longer :
    let headers : List Header :=
      [("content-type", Utf8.encodeString "application/x-www-form-urlencodedfoo")]
    let body := Utf8.encodeString "namespace=b"
    let r := Request.ofTarget "/a?extents&namespace=u" (some body)
    let hidden : List Header :=
      [("content-type", Utf8.encodeString "application/x-www-form-urlencoded; a=" ++ [0xFF])]
    (HasMediaType headers (formMediaType ++ "foo".toList) ∧
      ¬ HasMediaType headers formMediaType ∧
      hasFormBody "POST" headers = true ∧
      readRequest ⟨"POST", "/a?extents&namespace=u", headers, .ofOctets body⟩ 1024 = .ok r ∧
      r.hasBodyValues = true ∧ r.value "namespace" = "b") ∧
    HasMediaType hidden formMediaType ∧ hasFormBody "POST" hidden = false := by
  intro headers body r hidden
  have longer : HasMediaType headers (formMediaType ++ "foo".toList) :=
    ⟨Utf8.encodeString "application/x-www-form-urlencodedfoo",
      "application/x-www-form-urlencodedfoo".toList, by decide +kernel, by decide +kernel,
      by decide +kernel⟩
  have other : ¬ HasMediaType headers formMediaType := by
    rintro ⟨octets, text, found, before, same⟩
    obtain ⟨octets', text', found', before', same'⟩ := longer
    rw [found] at found'
    cases found'
    rw [before] at before'
    cases before'
    rw [same] at same'
    exact absurd same' (by decide)
  have form : HasMediaType hidden formMediaType :=
    ⟨Utf8.encodeString "application/x-www-form-urlencoded; a=" ++ [0xFF], formMediaType,
      by decide +kernel, by decide +kernel, by decide +kernel⟩
  exact ⟨⟨longer, other, by decide +kernel, by decide +kernel, by decide +kernel,
    by decide +kernel⟩, form, by decide +kernel⟩

end MetadataGateway.Http.Message
