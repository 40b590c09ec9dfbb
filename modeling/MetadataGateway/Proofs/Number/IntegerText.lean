import Mathlib.Data.Nat.Digits.Defs
import Mathlib.Tactic.IntervalCases
import MetadataGateway.Number.IntegerText

/-!
# Which texts are integers

A text spells an integer in decimal digits, perhaps behind one sign. The reader goes through the
digits once and stops at the first that takes the number beyond its limit; since more digits never
make a number smaller, what it refuses so is beyond the limit as a whole
(`readMagnitude_of_digits`). So it reads what spells an integer between the limits, and nothing else
(`readInteger_of_spells`, `readInteger_of_not_spells`).
-/

namespace MetadataGateway.Number

variable {digits text : List Char} {limit read : Nat} {beyond : IntegerError} {n : Int}

/-! ## Digits -/

/-- A decimal digit is one of ten characters. -/
lemma digit_of_isDigit {c : Char} (digit : c.isDigit = true) :
    ∃ d < 10, c = Char.ofNat (0x30 + d) := by
  simp only [Char.isDigit, Bool.and_eq_true, decide_eq_true_eq] at digit
  obtain ⟨low, high⟩ := digit
  have low' : 48 ≤ c.toNat := low
  have high' : c.toNat ≤ 57 := high
  refine ⟨c.toNat - 48, by omega, ?_⟩
  rw [show 0x30 + (c.toNat - 48) = c.toNat by omega, Char.ofNat_toNat]

/-- A digit counts nine at most. -/
lemma digitValue_le {c : Char} (digit : c.isDigit = true) : digitValue c ≤ 9 := by
  obtain ⟨d, small, rfl⟩ := digit_of_isDigit digit
  interval_cases d <;> decide

/-- So many digits more leave a number below the next one with so many zeros behind it. -/
lemma foldl_lt (all_digits : ∀ c ∈ digits, c.isDigit = true) (n : Nat) :
    digits.foldl (fun n c => n * 10 + digitValue c) n < (n + 1) * 10 ^ digits.length := by
  induction digits generalizing n with
  | nil =>
    rw [List.foldl_nil, List.length_nil, Nat.pow_zero, Nat.mul_one]
    exact Nat.lt_succ_self n
  | cons c digits ih =>
    have few := digitValue_le (all_digits c List.mem_cons_self)
    have rest := ih (fun b mem => all_digits b (List.mem_cons_of_mem c mem)) (n * 10 + digitValue c)
    calc digits.foldl (fun n c => n * 10 + digitValue c) (n * 10 + digitValue c)
        < (n * 10 + digitValue c + 1) * 10 ^ digits.length := rest
      _ ≤ ((n + 1) * 10) * 10 ^ digits.length := Nat.mul_le_mul_right _ (by omega)
      _ = (n + 1) * 10 ^ (digits.length + 1) := by rw [Nat.pow_succ', Nat.mul_assoc]

/-- More digits never make a number smaller. -/
lemma le_foldl (digits : List Char) (n : Nat) :
    n ≤ digits.foldl (fun n c => n * 10 + digitValue c) n := by
  induction digits generalizing n with
  | nil => exact Nat.le_refl n
  | cons c digits ih =>
    calc n ≤ n * 10 + digitValue c := by omega
      _ ≤ digits.foldl (fun n c => n * 10 + digitValue c) (n * 10 + digitValue c) := ih _

/-! ## Numerals -/

/-- Decimal digits, at least one. -/
def Numeral (digits : List Char) : Prop :=
  digits ≠ [] ∧ ∀ c ∈ digits, c.isDigit = true

instance (digits : List Char) : Decidable (Numeral digits) :=
  decidable_of_iff (digits ≠ [] ∧ digits.all Char.isDigit = true)
    (and_congr_right fun _ => List.all_eq_true)

/-- The number that digits spell: each counts by its place, from the last on. -/
def placeValue (digits : List Char) : Nat :=
  Nat.ofDigits 10 (digits.reverse.map digitValue)

/-- The texts that spell an integer: a numeral, perhaps behind one sign. -/
inductive SpellsInteger : List Char → Int → Prop where
  | plain {digits : List Char} :
    Numeral digits →
    SpellsInteger digits (placeValue digits)
  | plus {digits : List Char} :
    Numeral digits →
    SpellsInteger ('+' :: digits) (placeValue digits)
  | minus {digits : List Char} :
    Numeral digits →
    SpellsInteger ('-' :: digits) (-(placeValue digits : Int))

/-- Reading from the first digit on gives each digit the value of its place. -/
lemma natOfDigits_eq_placeValue (digits : List Char) : natOfDigits digits = placeValue digits := by
  rw [placeValue, Nat.ofDigits_eq_foldr, List.foldr_map, List.foldr_reverse, natOfDigits]
  simp only [Nat.cast_id, Nat.mul_comm, Nat.add_comm]

/-! ## Numbers in digits -/

/-- A number is read back from its digits. -/
lemma natOfDigits_toDigits (n : Nat) : natOfDigits (Nat.toDigits 10 n) = n := by
  calc natOfDigits (Nat.toDigits 10 n)
      = Nat.ofDigitChars 10 (Nat.toDigits 10 n) 0 := by
        simp only [natOfDigits, Nat.ofDigitChars, digitValue, Nat.mul_comm]
    _ = n := Nat.ofDigitChars_ten_toDigits

/-- The digits of a number are a numeral. -/
lemma numeral_toDigits (n : Nat) : Numeral (Nat.toDigits 10 n) :=
  ⟨Nat.toDigits_ne_nil, fun _ mem => Nat.isDigit_of_mem_toDigits (by decide) (by decide) mem⟩

/-- No number but zero begins with a zero: without it, its digits would be too few. -/
lemma head_toDigits {n : Nat} (pos : n ≠ 0) :
    ∃ c digits, Nat.toDigits 10 n = c :: digits ∧ c ≠ '0' := by
  obtain ⟨some_digit, all_digits⟩ := numeral_toDigits n
  obtain ⟨c, digits, spelled⟩ := List.exists_cons_of_ne_nil some_digit
  refine ⟨c, digits, spelled, ?_⟩
  rintro rfl
  rw [spelled] at all_digits
  have value := natOfDigits_toDigits n
  rw [spelled, natOfDigits, List.foldl_cons] at value
  have small : n < 10 ^ digits.length := by
    have below := foldl_lt (fun c mem => all_digits c (List.mem_cons_of_mem _ mem)) 0
    rw [Nat.zero_add, Nat.one_mul] at below
    exact value ▸ below
  have some_left : 0 < digits.length := by
    by_contra none
    rw [Nat.eq_zero_of_not_pos none] at small
    omega
  have few := (Nat.length_toDigits_le_iff (by decide) some_left).2 small
  rw [spelled, List.length_cons] at few
  omega

/-! ## Reading numerals -/

/-- Digits are refused on the way just if the whole number is beyond the limit. -/
lemma readMagnitude_of_digits (all_digits : ∀ c ∈ digits, c.isDigit = true) (fits : read ≤ limit) :
    readMagnitude limit beyond read digits =
      if digits.foldl (fun n c => n * 10 + digitValue c) read ≤ limit then
        .ok (digits.foldl (fun n c => n * 10 + digitValue c) read)
      else .error beyond := by
  induction digits generalizing read with
  | nil => exact (if_pos fits).symm
  | cons c digits ih =>
    obtain ⟨digit, rest⟩ := List.forall_mem_cons.1 all_digits
    rw [readMagnitude, digit, Bool.not_true, if_neg Bool.false_ne_true, List.foldl_cons]
    by_cases past : limit < read * 10 + digitValue c
    · have grown := le_foldl digits (read * 10 + digitValue c)
      rw [if_pos past, if_neg (by omega)]
    · rw [if_neg past, ih rest (Nat.le_of_not_lt past)]

/-- What is not all digits is refused. -/
lemma readMagnitude_of_not_digits (other : ¬ ∀ c ∈ digits, c.isDigit = true) :
    ∃ e, readMagnitude limit beyond read digits = .error e := by
  induction digits generalizing read with
  | nil => exact absurd nofun other
  | cons c digits ih =>
    unfold readMagnitude
    by_cases digit : c.isDigit = true
    · have rest : ¬ ∀ c ∈ digits, c.isDigit = true :=
        fun all => other (List.forall_mem_cons.2 ⟨digit, all⟩)
      rw [digit, Bool.not_true, if_neg Bool.false_ne_true]
      split_ifs
      · exact ⟨beyond, rfl⟩
      · exact ih rest
    · rw [Bool.not_eq_true] at digit
      rw [digit, Bool.not_false, if_pos rfl]
      exact ⟨.invalidDigit, rfl⟩

/-- A numeral is read if its number is within the limit. -/
lemma readSigned_of_numeral (numeral : Numeral digits) :
    readSigned limit beyond digits =
      if placeValue digits ≤ limit then .ok (placeValue digits) else .error beyond := by
  rw [readSigned, if_neg numeral.1, readMagnitude_of_digits numeral.2 (Nat.zero_le limit),
    ← natOfDigits_eq_placeValue, natOfDigits]

/-- What is no numeral is refused. -/
lemma readSigned_of_not_numeral (other : ¬ Numeral digits) :
    ∃ e, readSigned limit beyond digits = .error e := by
  unfold readSigned
  split_ifs with none
  · exact ⟨.invalidDigit, rfl⟩
  · exact readMagnitude_of_not_digits fun all => other ⟨none, all⟩

/-! ## Reading integers -/

section limits

variable (below above : Nat)

/-- Behind a minus the number below zero is read. -/
lemma readInteger_minus (digits : List Char) :
    readInteger below above ('-' :: digits) =
      (readSigned below .tooSmall digits).map fun n : Nat => -(n : Int) := by
  rw [readInteger]
  cases readSigned below .tooSmall digits <;> rfl

/-- Behind a plus the number is read as it is without. -/
lemma readInteger_plus (digits : List Char) :
    readInteger below above ('+' :: digits) =
      (readSigned above .tooLarge digits).map fun n : Nat => (n : Int) := by
  rw [readInteger]
  cases readSigned above .tooLarge digits <;> rfl

/-- Without a sign, a numeral is read as behind a plus sign. -/
lemma readInteger_of_unsigned {c : Char} (plus : c ≠ '+') (minus : c ≠ '-') :
    readInteger below above (c :: digits) =
      (readSigned above .tooLarge (c :: digits)).map fun n : Nat => (n : Int) := by
  rw [readSigned, if_neg (List.cons_ne_nil c digits)]
  unfold readInteger
  split
  case h_1 same => cases same
  case h_2 same => exact absurd (List.cons.inj same).1 minus
  case h_3 same => exact absurd (List.cons.inj same).1 plus
  case h_4 => cases readMagnitude above .tooLarge 0 (c :: digits) <;> rfl

/-- A numeral that counts as it stands has only an upper limit. -/
lemma map_readSigned_of_numeral (numeral : Numeral digits) :
    ((readSigned above .tooLarge digits).map fun n : Nat => (n : Int)) =
      if (placeValue digits : Int) < -(below : Int) then .error .tooSmall
      else if (above : Int) < placeValue digits then .error .tooLarge
      else .ok (placeValue digits : Int) := by
  have low : ¬ (placeValue digits : Int) < -(below : Int) := by omega
  rw [readSigned_of_numeral numeral, if_neg low]
  by_cases fits : placeValue digits ≤ above
  · rw [if_pos fits, if_neg (by omega)]
    rfl
  · rw [if_neg fits, if_pos (by omega)]
    rfl

/-- What spells an integer is read as that integer, or refused for the limit that it is beyond. -/
lemma readInteger_of_spells (spelled : SpellsInteger text n) :
    readInteger below above text =
      if n < -(below : Int) then .error .tooSmall
      else if (above : Int) < n then .error .tooLarge
      else .ok n := by
  cases spelled with
  | plain numeral =>
    obtain ⟨c, digits, rfl⟩ := List.exists_cons_of_ne_nil numeral.1
    have digit := numeral.2 c List.mem_cons_self
    have plus : c ≠ '+' := by
      rintro rfl
      exact absurd digit (by decide)
    have minus : c ≠ '-' := by
      rintro rfl
      exact absurd digit (by decide)
    rw [readInteger_of_unsigned below above plus minus]
    exact map_readSigned_of_numeral below above numeral
  | plus numeral =>
    rw [readInteger_plus]
    exact map_readSigned_of_numeral below above numeral
  | @minus digits numeral =>
    have high : ¬ (above : Int) < -(placeValue digits : Int) := by omega
    rw [readInteger_minus, readSigned_of_numeral numeral, if_neg high]
    by_cases fits : placeValue digits ≤ below
    · rw [if_pos fits, if_neg (by omega)]
      rfl
    · rw [if_neg fits, if_pos (by omega)]
      rfl

/-- What spells no integer is refused. -/
lemma readInteger_of_not_spells (none : ∀ n, ¬ SpellsInteger text n) :
    ∃ e, readInteger below above text = .error e := by
  have refused {limit : Nat} {beyond : IntegerError} {digits : List Char} (sign : Nat → Int)
      (other : ¬ Numeral digits) :
      ∃ e, (readSigned limit beyond digits).map sign = .error e := by
    obtain ⟨e, failed⟩ : ∃ e, readSigned limit beyond digits = .error e :=
      readSigned_of_not_numeral other
    exact ⟨e, by rw [failed]; rfl⟩
  cases text with
  | nil => exact ⟨.empty, rfl⟩
  | cons c digits =>
    by_cases minus : c = '-'
    · subst minus
      rw [readInteger_minus]
      exact refused _ fun numeral => none _ (.minus numeral)
    · by_cases plus : c = '+'
      · subst plus
        rw [readInteger_plus]
        exact refused _ fun numeral => none _ (.plus numeral)
      · rw [readInteger_of_unsigned below above plus minus]
        exact refused _ fun numeral => none _ (.plain numeral)

end limits

end MetadataGateway.Number
