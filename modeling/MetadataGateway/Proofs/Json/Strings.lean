import Mathlib.Tactic.Common
import MetadataGateway.Json.Reader

/-!
# Strings written and read

Whatever characters a string has, it is read back from its text (`takes_stringText`). A character is
escaped in one of three ways: by a letter, by its number in four digits, or not at all
(`escapeChar_cases`); the reader undoes each.

`Takes` says what a reader makes of the front of a text, whatever stands behind it and wherever it
is.
-/

namespace MetadataGateway.Json

open Text

variable {α : Type} {c : Cursor} {x : Char} {r : List Char}

/-- A reader takes a text, and gives a value for it, wherever the text is in front. -/
def Takes (read : Cursor → Except Error (α × Cursor)) (front : List Char) (a : α) : Prop :=
  ∀ c back, c.rest = front ++ back → ∃ c', read c = .ok (a, c') ∧ c'.rest = back

/-! ## Places in a text -/

namespace Cursor

/-- Behind the first character stands the rest. -/
lemma rest_next (here : c.rest = x :: r) : c.next.rest = r := by
  simp [next, here]

/-- Behind the first characters stand the others. -/
lemma rest_skip (c : Cursor) (n : Nat) : (c.skip n).rest = c.rest.drop n := by
  induction n generalizing c with
  | zero => rfl
  | succ n ih =>
    rw [skip, ih]
    cases here : c.rest with
    | nil => simp [next, here]
    | cons x r => rw [rest_next here, List.drop_succ_cons]

end Cursor

open Cursor

/-! ## Characters -/

/-- A hexadecimal digit is read back. -/
lemma hexDigit?_hexDigit : ∀ n < 16, hexDigit? (hexDigit n) = some n := by
  decide

/-- Four hexadecimal digits are read back as their number. -/
lemma takes_fourHexDigits {p q s t : Nat} (hp : p < 16) (hq : q < 16) (hs : s < 16) (ht : t < 16) :
    Takes fourHexDigits [hexDigit p, hexDigit q, hexDigit s, hexDigit t]
      (((p * 16 + q) * 16 + s) * 16 + t) := by
  intro c back here
  refine ⟨c.skip 4, ?_, by rw [rest_skip, here]; rfl⟩
  simp [fourHexDigits, here, hexDigit?_hexDigit, hp, hq, hs, ht]

/-- The escape of a control is read back. -/
lemma takes_unicodeEscape {n : Nat} (control : n < 32) :
    Takes unicodeEscape ['0', '0', hexDigit (n / 16), hexDigit (n % 16)] (Char.ofNat n) := by
  intro c back here
  obtain ⟨c', digits, behind⟩ :=
    takes_fourHexDigits (p := 0) (q := 0) (by decide) (by decide) (s := n / 16) (t := n % 16)
      (by omega) (by omega) c back here
  have number : ((0 * 16 + 0) * 16 + n / 16) * 16 + n % 16 = n := by omega
  rw [number] at digits
  refine ⟨c', ?_, behind⟩
  have noSurrogate : ¬ 0xDC00 ≤ n := by omega
  have small : n < 0xD800 := by omega
  simp [unicodeEscape, digits, noSurrogate, small, bind, Except.bind]

/-- A letter behind a backslash is read as the character that it stands for. -/
lemma takes_escape (reads : ∀ c r, c.rest = x :: r → escape c = .ok (y, c.next)) :
    Takes escape [x] y :=
  fun c back here => ⟨c.next, reads c back here, rest_next here⟩

/-- A character is written behind a backslash from which it is read, or as it is. -/
lemma escapeChar_cases (x : Char) :
    (∃ text, escapeChar x = '\\' :: text ∧ Takes escape text x) ∨
    (escapeChar x = [x] ∧ x ≠ '\x22' ∧ x ≠ '\\' ∧ ¬ x < ' ') := by
  unfold escapeChar
  split_ifs with quote backslash backspace tab line page carriage isControl
  any_goals
    subst x
    exact .inl ⟨_, rfl, takes_escape fun c r here => by simp [escape, here]⟩
  case pos =>
    refine .inl ⟨_, rfl, ?_⟩
    intro c back here
    obtain ⟨c', read, behind⟩ := takes_unicodeEscape (n := x.toNat) isControl c.next back
      (rest_next here)
    refine ⟨c', ?_, behind⟩
    simp [escape, here, read]
  case neg => exact .inr ⟨rfl, quote, backslash, isControl⟩

/-! ## Strings -/

/-- The characters of a string are read back from their escapes, up to the quote behind them. -/
lemma stringBody_escaped (text : List Char) :
    ∀ fuel c back, c.rest = text.flatMap escapeChar ++ '\x22' :: back → c.rest.length < fuel →
      ∃ c', stringBody fuel c = .ok (text, c') ∧ c'.rest = back := by
  induction text with
  | nil =>
    intro fuel c back here enough
    obtain ⟨fuel, rfl⟩ := Nat.exists_eq_add_one_of_ne_zero (Nat.ne_zero_of_lt enough)
    exact ⟨c.next, by simp [stringBody, here], rest_next here⟩
  | cons x text ih =>
    intro fuel c back here enough
    obtain ⟨fuel, rfl⟩ := Nat.exists_eq_add_one_of_ne_zero (Nat.ne_zero_of_lt enough)
    rw [List.flatMap_cons, List.append_assoc] at here
    obtain ⟨escaped, front, takes⟩ | ⟨front, quote, backslash, control⟩ := escapeChar_cases x
    · rw [front, List.cons_append] at here
      obtain ⟨c', first, behind⟩ := takes c.next _ (rest_next here)
      have shorter : c'.rest.length < fuel := by
        have length := congrArg List.length here
        rw [behind]
        simp only [List.length_cons, List.length_append] at length enough ⊢
        omega
      obtain ⟨c'', others, last⟩ := ih fuel c' back behind shorter
      exact ⟨c'', by simp [stringBody, here, first, others, bind, Except.bind], last⟩
    · rw [front, List.singleton_append] at here
      have shorter : c.next.rest.length < fuel := by
        have length := congrArg List.length here
        rw [rest_next here]
        simp only [List.length_cons] at length
        omega
      obtain ⟨c', others, last⟩ := ih fuel c.next back (rest_next here) shorter
      refine ⟨c', ?_, last⟩
      simp [stringBody, here, quote, backslash, control, others, bind, Except.bind]

/-- A string is read back from its text behind the opening quote. -/
lemma takes_stringText (s : String) :
    Takes stringText (s.toList.flatMap escapeChar ++ ['\x22']) s := by
  intro c back here
  rw [List.append_assoc, List.singleton_append] at here
  obtain ⟨c', read, behind⟩ :=
    stringBody_escaped s.toList (c.rest.length + 1) c back here (Nat.lt_succ_self _)
  refine ⟨c', ?_, behind⟩
  simp [stringText, read, bind, Except.bind]

end MetadataGateway.Json
