import MetadataGateway.Coercion
import MetadataGateway.Proofs.Number.IntegerText
import MetadataGateway.Proofs.Text.Blank

/-!
# Integers are exact

A text with any white space around it is coerced to the integer that it spells, with any zeros in
front, if that is one of 32 bits, and to an error otherwise (`coerce_integer`).
-/

namespace MetadataGateway.Coercion

open Text Number

variable {raw : String} {n : Int}

/-- There is no white space in what spells an integer. -/
lemma solid_of_spellsInteger {text : List Char} (spelled : SpellsInteger text n) : Solid text := by
  have digits_solid {digits : List Char} (numeral : Numeral digits) : Solid digits :=
    fun c mem => isBlank_of_isDigit (numeral.2 c mem)
  cases spelled with
  | plain numeral => exact digits_solid numeral
  | plus numeral | minus numeral =>
    exact List.forall_mem_cons.2 ⟨by decide, digits_solid numeral⟩

/-- A text spells an integer, with any white space around it. -/
def MeansInteger (raw : String) (n : Int) : Prop :=
  ∃ before text after, raw.toList = before ++ text ++ after ∧ Blank before ∧ Blank after ∧
    SpellsInteger text n

/-- A text means an integer just if it spells it when it is trimmed. -/
lemma meansInteger_iff : MeansInteger raw n ↔ SpellsInteger (trim raw.toList) n := by
  constructor
  · rintro ⟨before, text, after, whole, before_blank, after_blank, spelled⟩
    have trimmed := (trim_eq_iff (solid_of_spellsInteger spelled)).2
      ⟨before, after, whole, before_blank, after_blank⟩
    rwa [trimmed]
  · intro spelled
    obtain ⟨before, after, whole, before_blank, after_blank⟩ := exists_padding raw.toList
    exact ⟨before, _, after, whole, before_blank, after_blank, spelled⟩

/-- A text that is not empty is trimmed and read as an integer of 32 bits. -/
lemma coerce_integer_of_ne (some_text : raw ≠ "") :
    coerce .integer raw =
      ((readInt32 (trim raw.toList)).mapError Reason.integer).map fun n => .integer (some n) := by
  rw [coerce, if_neg some_text]
  show (integerOf raw.toList).map _ = _
  unfold integerOf
  cases readInt32 (trim raw.toList) <;> rfl

/-- A text that spells an integer is coerced to it, or refused for the limit that it is beyond. -/
lemma coerce_of_meansInteger (some_text : raw ≠ "") (means : MeansInteger raw n) :
    coerce .integer raw =
      if n < -2147483648 then .error (.integer .tooSmall)
      else if 2147483647 < n then .error (.integer .tooLarge)
      else .ok (.integer (some n)) := by
  have taken : readInt32 (trim raw.toList) =
      if n < -2147483648 then .error .tooSmall
      else if 2147483647 < n then .error .tooLarge
      else .ok n :=
    readInteger_of_spells _ _ (meansInteger_iff.1 means)
  rw [coerce_integer_of_ne some_text, taken]
  split_ifs <;> rfl

/-- A text that spells no integer is refused. -/
lemma coerce_of_not_meansInteger (some_text : raw ≠ "") (none : ∀ n, ¬ MeansInteger raw n) :
    ∃ e, coerce .integer raw = .error (.integer e) := by
  obtain ⟨e, failed⟩ := readInteger_of_not_spells 2147483648 2147483647
    fun n spelled => none n (meansInteger_iff.2 spelled)
  refine ⟨e, ?_⟩
  rw [coerce_integer_of_ne some_text, readInt32, failed]
  rfl

/-- A text that is not empty is coerced to an integer just if it spells one of 32 bits, with any
white space around it, and then to that integer. White space alone, an integer beyond either limit
and a text that spells no integer are errors. -/
theorem coerce_integer (some_text : raw ≠ "") :
    (∀ a, coerce .integer raw = .ok a ↔
      ∃ n, MeansInteger raw n ∧ -2147483648 ≤ n ∧ n ≤ 2147483647 ∧ a = .integer (some n)) ∧
    (Blank raw.toList → coerce .integer raw = .error (.integer .empty)) ∧
    (∀ n, MeansInteger raw n → n < -2147483648 →
      coerce .integer raw = .error (.integer .tooSmall)) ∧
    (∀ n, MeansInteger raw n → 2147483647 < n →
      coerce .integer raw = .error (.integer .tooLarge)) ∧
    ((∀ n, ¬ MeansInteger raw n) → ∃ e, coerce .integer raw = .error (.integer e)) := by
  refine ⟨fun a => ⟨?taken, ?between⟩, ?blank, ?small, ?large,
    coerce_of_not_meansInteger some_text⟩
  case taken =>
    intro coerced
    by_cases means : ∃ n, MeansInteger raw n
    · obtain ⟨n, means⟩ := means
      rw [coerce_of_meansInteger some_text means] at coerced
      split_ifs at coerced with low high
      cases coerced
      exact ⟨n, means, Int.not_lt.1 low, Int.not_lt.1 high, rfl⟩
    · obtain ⟨e, failed⟩ := coerce_of_not_meansInteger some_text (not_exists.1 means)
      rw [failed] at coerced
      cases coerced
  case between =>
    rintro ⟨n, means, low, high, rfl⟩
    rw [coerce_of_meansInteger some_text means, if_neg (Int.not_lt.2 low),
      if_neg (Int.not_lt.2 high)]
  case blank =>
    intro blank
    have nothing : trim raw.toList = [] := by
      rw [trim, trimStart_of_blank blank]
      rfl
    rw [coerce_integer_of_ne some_text, nothing]
    rfl
  case small =>
    intro n means low
    rw [coerce_of_meansInteger some_text means, if_pos low]
  case large =>
    intro n means high
    rw [coerce_of_meansInteger some_text means, if_neg (by omega), if_pos high]

/-- The least integer with zeros in front and white space around it, and texts that are refused. -/
theorem coerce_integer_limits :
    coerce .integer "\u3000-0002147483648\n" = .ok (.integer (some (-2147483648))) ∧
    coerce .integer "-2147483649" = .error (.integer .tooSmall) ∧
    coerce .integer "+2147483648" = .error (.integer .tooLarge) ∧
    coerce .integer "\t " = .error (.integer .empty) ∧
    ∃ e, coerce .integer "one" = .error (.integer e) := by
  have least : MeansInteger "\u3000-0002147483648\n" (-2147483648) :=
    ⟨['\u3000'], _, ['\n'], rfl, by decide, by decide,
      @SpellsInteger.minus "0002147483648".toList (by decide)⟩
  have below : MeansInteger "-2147483649" (-2147483649) :=
    ⟨[], _, [], rfl, nofun, nofun,
      @SpellsInteger.minus "2147483649".toList (by decide)⟩
  have above : MeansInteger "+2147483648" 2147483648 :=
    ⟨[], _, [], rfl, nofun, nofun, @SpellsInteger.plus "2147483648".toList (by decide)⟩
  have none : ∀ n, ¬ MeansInteger "one" n := by
    intro n means
    have spelled : SpellsInteger "one".toList n := meansInteger_iff.1 means
    cases spelled with
    | plain numeral => exact absurd (numeral.2 'o' (by decide)) (by decide)
  refine ⟨?_, ?_, ?_, ?_, ?_⟩
  · exact ((coerce_integer (by decide)).1 _).2 ⟨_, least, by decide, by decide, rfl⟩
  · exact (coerce_integer (by decide)).2.2.1 _ below (by decide)
  · exact (coerce_integer (by decide)).2.2.2.1 _ above (by decide)
  · exact (coerce_integer (by decide)).2.1 (by decide)
  · exact (coerce_integer (by decide)).2.2.2.2 none

end MetadataGateway.Coercion
