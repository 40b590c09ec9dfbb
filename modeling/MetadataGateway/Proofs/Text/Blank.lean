import Mathlib.Data.List.DropRight
import Mathlib.Data.List.TakeWhile
import Mathlib.Tactic.Common
import Mathlib.Tactic.IntervalCases
import MetadataGateway.Proofs.Number.IntegerText
import MetadataGateway.Text.Blank

/-!
# White space around a text

What is trimmed off a text is the white space that it begins with and the white space that it ends
with, and no more (`exists_padding`). So more white space around a text makes no difference
(`trim_padded`), and a text that has none in it is what is left of it with any around it
(`trim_eq_iff`). Where a text begins with characters that are no white space, trimming its end
leaves them there (`prefix_trimEnd_iff`).
-/

namespace MetadataGateway.Text

variable {text core before after : List Char} {c : Char}

/-- White space and nothing else. -/
def Blank (text : List Char) : Prop :=
  ∀ c ∈ text, isBlank c = true

instance (text : List Char) : Decidable (Blank text) :=
  decidable_of_iff (text.all isBlank = true) List.all_eq_true

/-- No white space. -/
def Solid (text : List Char) : Prop :=
  ∀ c ∈ text, isBlank c = false

instance (text : List Char) : Decidable (Solid text) :=
  decidable_of_iff (text.all (!isBlank ·) = true) (by simp [Solid])

/-- A digit is no white space. -/
lemma isBlank_of_isDigit (digit : c.isDigit = true) : isBlank c = false := by
  obtain ⟨d, small, rfl⟩ := Number.digit_of_isDigit digit
  interval_cases d <;> decide

/-! ## At the beginning -/

/-- Nothing is trimmed in front of what is no white space. -/
lemma trimStart_of_not_blank (solid : isBlank c = false) :
    trimStart (c :: text) = c :: text := by
  rw [trimStart, List.dropWhile_cons_of_neg (by rw [solid]; decide)]

/-- Of white space alone nothing is left. -/
lemma trimStart_of_blank (blank : Blank text) : trimStart text = [] :=
  List.dropWhile_eq_nil_iff.2 blank

/-- White space in front of a text is trimmed with that of the text. -/
lemma trimStart_append (blank : Blank before) (text : List Char) :
    trimStart (before ++ text) = trimStart text :=
  List.dropWhile_append_of_pos blank

/-- Trimming ends where something else than white space stands. -/
lemma trimStart_append_of_not_blank (some_solid : ¬ Blank text) (after : List Char) :
    trimStart (text ++ after) = trimStart text ++ after := by
  have left : ¬ (text.dropWhile isBlank).isEmpty = true :=
    fun none => some_solid (List.dropWhile_eq_nil_iff.1 (List.isEmpty_iff.1 none))
  rw [trimStart, List.dropWhile_append, if_neg left, trimStart]

/-! ## At the end -/

/-- Nothing is trimmed behind what is no white space. -/
lemma trimEnd_of_not_blank (solid : isBlank c = false) :
    trimEnd (text ++ [c]) = text ++ [c] := by
  rw [trimEnd, List.reverse_append, List.reverse_singleton, List.singleton_append,
    List.dropWhile_cons_of_neg (by rw [solid]; decide), List.reverse_cons, List.reverse_reverse]

/-- White space behind a text is trimmed with that of the text. -/
lemma trimEnd_append (text : List Char) (blank : Blank after) :
    trimEnd (text ++ after) = trimEnd text := by
  have turned : ∀ c ∈ after.reverse, isBlank c = true :=
    fun c mem => blank c (List.mem_reverse.1 mem)
  rw [trimEnd, List.reverse_append, List.dropWhile_append_of_pos turned, trimEnd]

/-- Only the end of a text is trimmed off there. -/
lemma isPrefix_trimEnd (text : List Char) : trimEnd text <+: text :=
  List.rdropWhile_prefix isBlank text

/-- Nothing is trimmed behind a text without white space. -/
lemma trimEnd_of_solid (solid : Solid core) : trimEnd core = core := by
  rcases List.eq_nil_or_concat' core with rfl | ⟨front, c, rfl⟩
  · rfl
  · exact trimEnd_of_not_blank (solid c (List.mem_append_right _ List.mem_cons_self))

/-- What is no white space stays in front of what is trimmed. -/
lemma trimEnd_append_of_solid (solid : Solid core) (text : List Char) :
    trimEnd (core ++ text) = core ++ trimEnd text := by
  have whole := trimEnd_of_solid solid
  unfold trimEnd at whole ⊢
  rw [List.reverse_append, List.dropWhile_append]
  split_ifs with none
  · rw [whole, List.isEmpty_iff.1 none, List.reverse_nil, List.append_nil]
  · rw [List.reverse_append, List.reverse_reverse]

/-- A text without white space stands in front just if it does when white space behind is trimmed.
-/
lemma prefix_trimEnd_iff (solid : Solid core) : core <+: trimEnd text ↔ core <+: text := by
  constructor
  · exact fun front => front.trans (isPrefix_trimEnd text)
  · rintro ⟨rest, rfl⟩
    rw [trimEnd_append_of_solid solid]
    exact List.prefix_append core _

/-! ## At both ends -/

/-- White space around a text is trimmed off with what the text has itself. -/
lemma trim_padded (before_blank : Blank before) (text : List Char) (after_blank : Blank after) :
    trim (before ++ text ++ after) = trim text := by
  rw [List.append_assoc, trim, trimStart_append before_blank, trim]
  by_cases blank : Blank text
  · -- Nothing but white space: what stands behind the text is trimmed off at the beginning.
    have all_blank : Blank (text ++ after) := List.forall_mem_append.2 ⟨blank, after_blank⟩
    rw [trimStart_of_blank all_blank, trimStart_of_blank blank]
  · rw [trimStart_append_of_not_blank blank, trimEnd_append _ after_blank]

/-- White space behind a text is trimmed off with what the text has itself. -/
lemma trim_append (text : List Char) (after_blank : Blank after) :
    trim (text ++ after) = trim text := by
  have no_more : Blank [] := nofun
  exact trim_padded no_more text after_blank

/-- Of white space alone nothing is left on either side. -/
lemma trim_of_blank (blank : Blank text) : trim text = [] := by
  rw [trim, trimStart_of_blank blank]
  rfl

/-- A text is what is left of it with white space on either side. -/
lemma exists_padding (text : List Char) :
    ∃ before after, text = before ++ trim text ++ after ∧ Blank before ∧ Blank after := by
  have start : text = text.takeWhile isBlank ++ trimStart text :=
    List.takeWhile_append_dropWhile.symm
  have ending : trimStart text = trim text ++ (trimStart text).rtakeWhile isBlank :=
    List.rdropWhile_append_rtakeWhile.symm
  refine ⟨text.takeWhile isBlank, (trimStart text).rtakeWhile isBlank, ?_, ?_, ?_⟩
  · rw [List.append_assoc, ← ending, ← start]
  · exact fun c mem => List.mem_takeWhile_imp mem
  · exact fun c mem => List.mem_rtakeWhile_imp mem

/-- A text without white space stays as it is. -/
lemma trim_of_solid (solid : Solid core) : trim core = core := by
  cases core with
  | nil => rfl
  | cons c core =>
    rw [trim, trimStart_of_not_blank (solid c List.mem_cons_self), trimEnd_of_solid solid]

/-- Without white space in it, what is left of a text is what stands between white space. -/
lemma trim_eq_iff (solid : Solid core) :
    trim text = core ↔
      ∃ before after, text = before ++ core ++ after ∧ Blank before ∧ Blank after := by
  constructor
  · rintro rfl
    exact exists_padding text
  · rintro ⟨before, after, rfl, before_blank, after_blank⟩
    rw [trim_padded before_blank core after_blank, trim_of_solid solid]

end MetadataGateway.Text
