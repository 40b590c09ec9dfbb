import Mathlib.Tactic.Common
import Mathlib.Tactic.IntervalCases
import MetadataGateway.Cache.Command

/-!
# Numbers in octets

The protocol spells numbers in decimal digits. A number is spelled by at least one digit and by
nothing but digits, and the reader of digits gets it back (`Command.natOf?_numeral`).
-/

namespace MetadataGateway.Cache

/-- The octets of two texts, one behind the other. -/
lemma octets_append (a b : String) : octets (a ++ b) = octets a ++ octets b := by
  simp only [octets, Utf8.encodeString, Utf8.encode, String.toList_append, List.flatMap_append]

/-- Whether an octet is a decimal digit. -/
def isDigitOctet (b : UInt8) : Bool :=
  0x30 ≤ b && b ≤ 0x39

/-- The octets of a number. -/
def numeral (n : Nat) : List UInt8 :=
  octets (toString n)

/-- A number below ten is spelled by one digit. -/
lemma numeral_of_lt {n : Nat} (small : n < 10) : numeral n = [UInt8.ofNat (0x30 + n)] := by
  interval_cases n <;> rfl

/-- A number from ten on is spelled by its tenth and its last digit. -/
lemma numeral_of_le {n : Nat} (large : 10 ≤ n) :
    numeral n = numeral (n / 10) ++ [UInt8.ofNat (0x30 + n % 10)] := by
  have digits : toString n = toString (n / 10) ++ toString (n % 10) :=
    Nat.repr_eq_repr_append_repr large
  rw [numeral, digits, octets_append, ← numeral_of_lt (Nat.mod_lt n (by decide))]
  rfl

/-- A number is spelled by at least one digit. -/
lemma numeral_ne_nil (n : Nat) : numeral n ≠ [] := by
  rcases Nat.lt_or_ge n 10 with small | large
  · rw [numeral_of_lt small]
    exact List.cons_ne_nil _ _
  · rw [numeral_of_le large]
    exact List.append_ne_nil_of_right_ne_nil _ (List.cons_ne_nil _ _)

/-- The octet of a digit is that of a digit, and tells which. -/
lemma digitOctet {d : Nat} (small : d < 10) :
    isDigitOctet (UInt8.ofNat (0x30 + d)) = true ∧ (UInt8.ofNat (0x30 + d)).toNat - 0x30 = d := by
  interval_cases d <;> decide

/-- The octet of a digit is one of ten. -/
lemma digit_of_isDigitOctet {b : UInt8} (digit : isDigitOctet b = true) :
    ∃ d < 10, b = UInt8.ofNat (0x30 + d) := by
  simp only [isDigitOctet, Bool.and_eq_true, decide_eq_true_eq, UInt8.le_iff_toNat_le] at digit
  change 0x30 ≤ b.toNat ∧ b.toNat ≤ 0x39 at digit
  refine ⟨b.toNat - 0x30, by omega, ?_⟩
  rw [show 0x30 + (b.toNat - 0x30) = b.toNat by omega, UInt8.ofNat_toNat]

/-- A number is spelled by nothing but digits. -/
lemma numeral_all (n : Nat) : (numeral n).all isDigitOctet = true := by
  induction n using Nat.strong_induction_on with
  | _ n ih =>
    rcases Nat.lt_or_ge n 10 with small | large
    · rw [numeral_of_lt small, List.all_cons, (digitOctet small).1]
      rfl
    · rw [numeral_of_le large, List.all_append, ih (n / 10) (by omega), List.all_cons,
        (digitOctet (Nat.mod_lt n (by decide))).1]
      rfl

/-- The value of the digits of a number is the number. -/
lemma numeral_foldl (n : Nat) :
    (numeral n).foldl (fun value b => value * 10 + (b.toNat - 0x30)) 0 = n := by
  induction n using Nat.strong_induction_on with
  | _ n ih =>
    rcases Nat.lt_or_ge n 10 with small | large
    · rw [numeral_of_lt small, List.foldl_cons, List.foldl_nil, (digitOctet small).2]
      omega
    · rw [numeral_of_le large, List.foldl_append, ih (n / 10) (by omega), List.foldl_cons,
        List.foldl_nil, (digitOctet (Nat.mod_lt n (by decide))).2]
      omega

/-- The octets of a number spell the number. -/
theorem Command.natOf?_numeral (n : Nat) : natOf? (numeral n) = some n := by
  have digits : (numeral n != []) && (numeral n).all isDigitOctet := by
    rw [numeral_all, Bool.and_true, bne_iff_ne]
    exact numeral_ne_nil n
  rw [natOf?, numeral_foldl]
  exact if_pos digits

end MetadataGateway.Cache
