import MetadataGateway.Proofs.Json.Tokens
import MetadataGateway.Proofs.Number.IntegerText

/-!
# Scalars read from their tokens

A value that has no others in it is one token, and is read back from it (`reads_null`,
`reads_boolean`, `reads_integer`, `reads_string`). A number has no end of its own: it is read back
because no digit, point or power of ten stands where the tokens behind it begin (`Stops`).
-/

namespace MetadataGateway.Json

open Cursor Number

variable {α : Type} {text token r : List Char} {behind : List (List Char)} {c : Cursor} {x : Char}
  {v : Json} {n : Nat} {whole : List Char → Except Error Json} {levels : Nat}

/-- What may stand behind a value: nothing, or a token that ends it. -/
def Ends (behind : List (List Char)) : Prop :=
  ∀ token ∈ behind.head?, token ∈ [[','], [']'], ['\x7D']]

/-- A reader takes tokens off the front of a text, whatever blanks stand between them and whatever
ends them, and gives a value for them. -/
def Reads (read : Cursor → Except Error (α × Cursor)) (front : List (List Char)) (a : α) : Prop :=
  ∀ c behind, Ends behind → Spaced (front ++ behind) c.rest →
    ∃ c', read c = .ok (a, c') ∧ Spaced behind c'.rest

/-! ## The end of a number -/

/-- No number goes on where a text begins. -/
def Stops (text : List Char) : Prop :=
  ∀ x ∈ text.head?, x.isDigit = false ∧ x ≠ '.' ∧ x ≠ 'e' ∧ x ≠ 'E'

/-- A number stops at a blank. -/
lemma stops_of_blank (blank : isBlank x = true) : Stops (x :: r) := by
  simp only [isBlank, Bool.or_eq_true, beq_iff_eq] at blank
  rintro _ ⟨⟩
  rcases blank with ((rfl | rfl) | rfl) | rfl <;> decide

/-- A number stops where a token stands that ends it, whatever blanks are in front. -/
lemma stops_of_spaced (ends : Ends behind) (spaced : Spaced behind text) : Stops text := by
  cases spaced with
  | done blank =>
    cases text with
    | nil => nofun
    | cons x r => exact stops_of_blank (blank x List.mem_cons_self)
  | @token blanks token text others blank _ =>
    cases blanks with
    | nil =>
      have one := ends token rfl
      simp only [List.mem_cons, List.not_mem_nil, or_false] at one
      rcases one with rfl | rfl | rfl <;> (rintro _ ⟨⟩; decide)
    | cons x r => exact stops_of_blank (blank x List.mem_cons_self)

/-! ## Words -/

/-- A word is taken from the front of a text. -/
lemma word_append (word : List Char) (here : c.rest = word ++ text) :
    ∃ c', c.word word = .ok c' ∧ c'.rest = text := by
  induction word generalizing c with
  | nil => exact ⟨c, rfl, here⟩
  | cons x word ih =>
    obtain ⟨c', read, behind⟩ := ih (rest_next here)
    refine ⟨c', ?_, behind⟩
    simp only [Cursor.word, here, List.cons_append, if_true, read]

/-! ## Integers -/

/-- All digits of a number that 64 bits hold are in it. -/
lemma absorb_of_le {digits : List Char}
    (fits : digits.foldl (fun n c => n * 10 + digitValue c) n ≤ greatest) :
    absorb n digits = (digits.foldl (fun n c => n * 10 + digitValue c) n, digits.length) := by
  induction digits generalizing n with
  | nil => rfl
  | cons c digits ih =>
    have small : ¬ greatest < n * 10 + digitValue c :=
      Nat.not_lt.2 ((le_foldl digits _).trans fits)
    rw [absorb, if_neg small, ih fits]
    rfl

/-- A whole number that stops is an integer, if 64 bits hold it. -/
lemma afterWhole_of_stops (stops : Stops c.rest) (positive : Bool) (n : Nat) :
    afterWhole c positive n 0 =
      if positive then .ok (.integer n, c)
      else if n = 0 || leastSize < n then .ok (.float (-Float.ofNat n), c)
      else .ok (.integer (-(n : Int)), c) := by
  unfold afterWhole
  split
  case h_1 r here => exact absurd rfl (stops '.' (here ▸ rfl)).2.1
  case h_2 r here => exact absurd rfl (stops 'e' (here ▸ rfl)).2.2.1
  case h_3 r here => exact absurd rfl (stops 'E' (here ▸ rfl)).2.2.2
  case h_4 => rfl

/-- The digits of a number are read as that number, up to what stops them. -/
lemma number_toDigits (fits : n ≤ greatest) (stops : Stops text)
    (here : c.rest = Nat.toDigits 10 n ++ text) (positive : Bool) :
    ∃ c', number c positive = afterWhole c' positive n 0 ∧ c'.rest = text := by
  obtain ⟨some_digit, all_digits⟩ := numeral_toDigits n
  have ended : text.takeWhile Char.isDigit = [] := by
    cases text with
    | nil => rfl
    | cons x r => exact List.takeWhile_cons_of_neg (Bool.not_eq_true _ ▸ (stops x rfl).1)
  by_cases zero : n = 0
  · subst zero
    refine ⟨c.next, ?_, rest_next here⟩
    cases text with
    | nil => simp [number, here]
    | cons y r => simp [number, here, (stops y rfl).1]
  · obtain ⟨x, digits, spelled, nonzero⟩ := head_toDigits zero
    have taken : c.rest.takeWhile Char.isDigit = Nat.toDigits 10 n := by
      rw [here, List.takeWhile_append_of_pos all_digits, ended, List.append_nil]
    have all : absorb 0 (Nat.toDigits 10 n) = (n, (Nat.toDigits 10 n).length) := by
      have value := natOfDigits_toDigits n
      rw [natOfDigits] at value
      rw [absorb_of_le (value.symm ▸ fits), value]
    refine ⟨c.skip (Nat.toDigits 10 n).length, ?_, ?_⟩
    · have first : c.rest = x :: (digits ++ text) := by rw [here, spelled, List.cons_append]
      have digit : x.isDigit = true := all_digits x (spelled ▸ List.mem_cons_self)
      rw [number, taken]
      simp only [first, nonzero, digit, all, if_true, if_false, Nat.sub_self]
    · rw [rest_skip, here, List.drop_left]

/-- An integer begins with its sign or with a digit, and so with no blank and no bracket. -/
lemma renderInteger_cons (n : Int) : ∃ x digits, renderInteger n = x :: digits ∧
    isBlank x = false ∧ x ∉ ['[', ']', '\x7B'] := by
  obtain ⟨some_digit, all_digits⟩ := numeral_toDigits n.natAbs
  obtain ⟨x, digits, spelled⟩ := List.exists_cons_of_ne_nil some_digit
  rw [renderInteger]
  split_ifs
  · exact ⟨'-', _, rfl, by decide, by decide⟩
  · have digit : x.isDigit = true := all_digits x (spelled ▸ List.mem_cons_self)
    refine ⟨x, digits, spelled, ?_, ?_⟩
    · by_contra blank
      have stopped := (stops_of_blank (r := []) (Bool.not_eq_false _ ▸ blank) x rfl).1
      rw [digit] at stopped
      cases stopped
    · intro bracket
      simp only [List.mem_cons, List.not_mem_nil, or_false] at bracket
      rcases bracket with rfl | rfl | rfl <;> exact absurd digit (by decide)

/-- What begins with a digit is read as a number without a sign. -/
lemma scalar_of_digit (here : c.rest = x :: r) (digit : x.isDigit = true) :
    scalar c = number c true := by
  rw [scalar, here]
  dsimp only
  split
  case h_6 => rw [if_pos digit]
  -- No letter, quote or sign is a digit.
  all_goals exact absurd digit (by decide)

/-- An integer that 64 bits hold is read from its digits, up to what stops them. -/
lemma scalar_integer {n : Int} (low : -(leastSize : Int) ≤ n) (high : n ≤ greatest)
    (stops : Stops text) (here : c.rest = renderInteger n ++ text) :
    ∃ c', scalar c = .ok (.integer n, c') ∧ c'.rest = text := by
  by_cases negative : n < 0
  · rw [renderInteger, if_pos negative, List.cons_append] at here
    have small : n.natAbs ≤ greatest := by
      rw [leastSize] at low
      rw [greatest]
      omega
    obtain ⟨c', read, behind⟩ := number_toDigits small stops (rest_next here) false
    refine ⟨c', ?_, behind⟩
    have held : ¬ (n.natAbs = 0 || decide (leastSize < n.natAbs)) = true := by
      rw [Bool.or_eq_true, decide_eq_true_eq, decide_eq_true_eq]
      omega
    have size : -(n.natAbs : Int) = n := by omega
    rw [scalar, here]
    show number c.next false = _
    rw [read, afterWhole_of_stops (behind ▸ stops : Stops c'.rest), if_neg Bool.false_ne_true,
      if_neg held, size]
  · rw [renderInteger, if_neg negative] at here
    have small : n.natAbs ≤ greatest := by omega
    obtain ⟨some_digit, all_digits⟩ := numeral_toDigits n.natAbs
    obtain ⟨x, digits, spelled⟩ := List.exists_cons_of_ne_nil some_digit
    obtain ⟨c', read, behind⟩ := number_toDigits small stops here true
    refine ⟨c', ?_, behind⟩
    have first : c.rest = x :: (digits ++ text) := by rw [here, spelled, List.cons_append]
    have size : (n.natAbs : Int) = n := by omega
    rw [scalar_of_digit first (all_digits x (spelled ▸ List.mem_cons_self)), read,
      afterWhole_of_stops (behind ▸ stops : Stops c'.rest), if_pos rfl, size]

/-! ## Values of one token -/

/-- What begins neither an array nor an object is one token. -/
lemma reads_scalar (solid : isBlank x = false) (plain : x ∉ ['[', ']', '\x7B'])
    (read : ∀ c text, Stops text → c.rest = x :: token ++ text →
      ∃ c', scalar c = .ok (v, c') ∧ c'.rest = text) :
    Reads (value whole (levels + 1)) [x :: token] v := by
  intro c behind ends spaced
  simp only [List.mem_cons, List.not_mem_nil, or_false, not_or] at plain
  obtain ⟨array, -, object⟩ := plain
  obtain ⟨text, here, others⟩ := spaced.skipBlanks solid
  obtain ⟨c', scanned, behind_it⟩ := read c.skipBlanks text (stops_of_spaced ends others) here
  refine ⟨c', ?_, behind_it.symm ▸ others⟩
  rw [value]
  dsimp only
  split
  case h_1 r there => exact absurd (List.cons.inj (here.symm.trans there)).1 array
  case h_2 r there => exact absurd (List.cons.inj (here.symm.trans there)).1 object
  case h_3 => exact scanned

/-- A word is read from its token. -/
lemma reads_word {word : List Char} (solid : isBlank x = false) (plain : x ∉ ['[', ']', '\x7B'])
    (read : ∀ c r, c.rest = x :: r → scalar c = (c.next.word word).map fun c => (v, c)) :
    Reads (value whole (levels + 1)) [x :: word] v := by
  refine reads_scalar solid plain fun c text _ here => ?_
  obtain ⟨c', taken, behind⟩ := word_append word (rest_next here)
  exact ⟨c', by rw [read c _ here, taken]; rfl, behind⟩

/-- Null is read from its token. -/
lemma reads_null : Reads (value whole (levels + 1)) (tokens .null) .null :=
  reads_word (by decide) (by decide) fun c r here => by rw [scalar, here]; rfl

/-- A truth value is read from its token. -/
lemma reads_boolean (b : Bool) :
    Reads (value whole (levels + 1)) (tokens (.boolean b)) (.boolean b) := by
  cases b with
  | true => exact reads_word (by decide) (by decide) fun c r here => by rw [scalar, here]; rfl
  | false => exact reads_word (by decide) (by decide) fun c r here => by rw [scalar, here]; rfl

/-- An integer that 64 bits hold is read from its token. -/
lemma reads_integer {n : Int} (low : -(leastSize : Int) ≤ n) (high : n ≤ greatest) :
    Reads (value whole (levels + 1)) (tokens (.integer n)) (.integer n) := by
  obtain ⟨x, digits, spelled, solid, plain⟩ := renderInteger_cons n
  rw [tokens, spelled]
  exact reads_scalar solid plain fun c text stops here =>
    scalar_integer low high stops (spelled.symm ▸ here)

/-- A string is read from its token. -/
lemma reads_string (s : String) :
    Reads (value whole (levels + 1)) (tokens (.string s)) (.string s) := by
  refine reads_scalar (x := '\x22') (by decide) (by decide) fun c text _ here => ?_
  obtain ⟨c', read, behind⟩ := takes_stringText s c.next text (rest_next here)
  refine ⟨c', ?_, behind⟩
  rw [scalar, here]
  simp [read, bind, Except.bind]

end MetadataGateway.Json
