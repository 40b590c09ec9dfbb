import Mathlib.Data.List.Forall2
import Mathlib.Data.List.TakeWhile
import Mathlib.Tactic.Common
import MetadataGateway.Backend.Basic

/-!
# The placeholders of a statement

Wherever a dollar sign and digits stand in a text of SQL, `slots` finds a placeholder, with its
number and the type that it is cast to. In the statement of an operation it finds one placeholder
for each parameter, in order, counted from one and cast to the type of that parameter
(`slots_argumentList`), and beside those nothing but what the name of the function has in it
(`slots_statement`).

What stands behind a placeholder may be read as a part of it. So a piece of a text is read on its
own only if what follows stops the reader (`Stops`): a bracket and a comma do.
-/

namespace MetadataGateway

/-- A placeholder: its number, and the name of the type that it is cast to, which is empty if it is
not cast. -/
structure Slot where
  number : Nat
  type : String
deriving DecidableEq, Repr

namespace Slot

/-- The characters of the name of a type. -/
def isTypeChar (c : Char) : Bool :=
  c.isAlphanum || c == '_' || c == '[' || c == ']'

/-- The type of a cast at the front of a text. -/
def castAt (text : List Char) : List Char :=
  if text.take 2 = [':', ':'] then (text.drop 2).takeWhile isTypeChar else []

/-- The placeholder whose dollar sign stands before a text. -/
def behindDollar? (text : List Char) : Option Slot :=
  if text.takeWhile Char.isDigit = [] then none
  else some ⟨Nat.ofDigitChars 10 (text.takeWhile Char.isDigit) 0,
    String.ofList (castAt (text.dropWhile Char.isDigit))⟩

/-- The placeholders in a text, in order. -/
def all : List Char → List Slot
  | [] => []
  | c :: rest => if c = '$' then (behindDollar? rest).toList ++ all rest else all rest

/-- A text before which a placeholder ends. -/
def Stops (text : List Char) : Prop :=
  ∀ c ∈ text.head?, c ≠ ':' ∧ isTypeChar c = false

/-- A text that is one placeholder, whatever stands behind it. -/
def Writes (text : List Char) (slot : Slot) : Prop :=
  ∀ back, Stops back → all (text ++ back) = slot :: all back

end Slot

/-- The placeholders in a text of SQL, in order. -/
def slots (sql : String) : List Slot :=
  Slot.all sql.toList

namespace Slot

variable {front back text : List Char}

/-! ## Reading a text in pieces -/

/-- A digit may stand in the name of a type. -/
lemma isTypeChar_of_isDigit {c : Char} (digit : c.isDigit = true) : isTypeChar c = true := by
  simp [isTypeChar, Char.isAlphanum, digit]

/-- What is taken from the front of a text is the same with something behind it that is not taken.
-/
lemma takeWhile_append_of_stops {p : Char → Bool} (stops : ∀ c ∈ back.head?, p c = false)
    (front : List Char) : (front ++ back).takeWhile p = front.takeWhile p := by
  induction front with
  | nil =>
    cases back with
    | nil => rfl
    | cons c _ => simp [stops c rfl]
  | cons c front ih =>
    rw [List.cons_append, List.takeWhile_cons, List.takeWhile_cons, ih]

/-- What is left of a text has behind it what stood behind the text, if that is not dropped. -/
lemma dropWhile_append_of_stops {p : Char → Bool} (stops : ∀ c ∈ back.head?, p c = false)
    (front : List Char) : (front ++ back).dropWhile p = front.dropWhile p ++ back := by
  induction front with
  | nil =>
    cases back with
    | nil => rfl
    | cons c _ => simp [stops c rfl]
  | cons c front ih =>
    rw [List.cons_append, List.dropWhile_cons, List.dropWhile_cons, ih]
    split <;> rfl

/-- Where a cast stops, no digit stands. -/
lemma Stops.digit (stops : Stops back) : ∀ c ∈ back.head?, c.isDigit = false := by
  intro c here
  by_contra digit
  have type := isTypeChar_of_isDigit (Bool.not_eq_false _ ▸ digit)
  rw [(stops c here).2] at type
  cases type

/-- A cast at the front of a text is the same with something behind it where it stops. -/
lemma castAt_append (stops : Stops back) (text : List Char) :
    castAt (text ++ back) = castAt text := by
  cases back with
  | nil => rw [List.append_nil]
  | cons c back =>
    have other : c ≠ ':' := (stops c rfl).1
    match text with
    | [] => simp [castAt, other]
    | [x] => simp [castAt, other]
    | x :: y :: rest =>
      simp only [castAt, List.cons_append, List.take_succ_cons, List.take_zero,
        List.drop_succ_cons, List.drop_zero,
        takeWhile_append_of_stops fun c here => (stops c here).2]

/-- A placeholder at the front of a text is the same with something behind it where it stops. -/
lemma behindDollar?_append (stops : Stops back) (text : List Char) :
    behindDollar? (text ++ back) = behindDollar? text := by
  unfold behindDollar?
  rw [takeWhile_append_of_stops stops.digit, dropWhile_append_of_stops stops.digit,
    castAt_append stops]

/-- Before what stops the reader, a text has the placeholders that it has on its own. -/
lemma all_append (stops : Stops back) (text : List Char) :
    all (text ++ back) = all text ++ all back := by
  induction text with
  | nil => rfl
  | cons c text ih =>
    simp only [List.cons_append, all, behindDollar?_append stops, ih]
    split
    · rw [List.append_assoc]
    · rfl

/-- Without a dollar sign there is no placeholder. -/
lemma all_eq_nil (none : '$' ∉ text) : all text = [] := by
  induction text with
  | nil => rfl
  | cons c text ih =>
    rw [List.mem_cons, not_or] at none
    rw [all, if_neg (Ne.symm none.1), ih none.2]

/-- What has no dollar sign may be skipped. -/
lemma all_skip (none : '$' ∉ front) (back : List Char) : all (front ++ back) = all back := by
  induction front with
  | nil => rfl
  | cons c front ih =>
    rw [List.mem_cons, not_or] at none
    rw [List.cons_append, all, if_neg (Ne.symm none.1), ih none.2]

/-! ## What is written for parameters -/

/-- Placeholders with commas between them are found one after another. -/
lemma all_intercalate {texts : List (List Char)} {found : List Slot}
    (writes : List.Forall₂ Writes texts found) (stops : Stops back) :
    all ([',', ' '].intercalate texts ++ back) = found ++ all back := by
  induction writes with
  | nil => rfl
  | @cons text slot texts found first others ih =>
    cases others with
    | nil =>
      rw [List.intercalate_singleton]
      exact first back stops
    | cons =>
      rw [List.intercalate_cons_cons, List.append_assoc, List.append_assoc,
        first _ (by simp [Stops, isTypeChar]), all_skip (by decide), ih]
      rfl

end Slot

open Slot

/-- The name of the type of a parameter has only characters that such names have. -/
lemma Kind.isTypeChar_sqlType (kind : Kind) : ∀ c ∈ kind.sqlType.toList, isTypeChar c = true := by
  have all : kind.sqlType.toList.all isTypeChar = true := by cases kind <;> rfl
  exact List.all_eq_true.1 all

/-- The placeholder of a parameter is found, with its number and the type of the parameter. -/
lemma Parameter.writes_placeholder (index : Nat) (p : Parameter) :
    Writes (p.placeholder index).toList ⟨index + 1, p.kind.sqlType⟩ := by
  intro back stops
  have digit : ∀ c ∈ Nat.toDigits 10 (index + 1), c.isDigit = true :=
    fun c => Nat.isDigit_of_mem_toDigits (by decide) (by decide)
  have text : (p.placeholder index).toList =
      '$' :: (Nat.toDigits 10 (index + 1) ++ ':' :: ':' :: p.kind.sqlType.toList) := by
    simp [placeholder]
  have noDollar : '$' ∉ Nat.toDigits 10 (index + 1) ++ ':' :: ':' :: p.kind.sqlType.toList := by
    simp only [List.mem_append, List.mem_cons, not_or]
    exact ⟨fun here => absurd (digit _ here) (by decide), by decide, by decide,
      fun here => absurd (p.kind.isTypeChar_sqlType _ here) (by decide)⟩
  have number : (Nat.toDigits 10 (index + 1) ++ ':' :: ':' :: p.kind.sqlType.toList).takeWhile
      Char.isDigit = Nat.toDigits 10 (index + 1) := by
    rw [List.takeWhile_append_of_pos digit]
    exact List.append_nil _
  have type : castAt ((Nat.toDigits 10 (index + 1) ++ ':' :: ':' :: p.kind.sqlType.toList).dropWhile
      Char.isDigit) = p.kind.sqlType.toList := by
    rw [List.dropWhile_append_of_pos digit]
    exact List.takeWhile_eq_self_iff.2 p.kind.isTypeChar_sqlType
  rw [text, List.cons_append, all, if_pos rfl, behindDollar?_append stops, all_skip noDollar,
    behindDollar?, number, type, if_neg Nat.toDigits_ne_nil, Nat.ofDigitChars_ten_toDigits,
    String.ofList_toList]
  rfl

namespace Operation

/-- The placeholders that the parameters of an operation need: they are counted from one, and cast
to the types of the parameters. -/
def casts (op : Operation) : List Slot :=
  op.parameters.mapIdx fun index p => ⟨index + 1, p.kind.sqlType⟩

/-- What stands between the brackets of a statement. -/
def argumentList (op : Operation) : String :=
  String.intercalate ", " op.placeholders

/-- The placeholders of an operation write its casts, in order. -/
lemma writes_placeholders (op : Operation) :
    List.Forall₂ Writes (op.placeholders.map String.toList) op.casts := by
  simp only [placeholders, casts, List.mapIdx_eq_zipIdx_map, List.forall₂_map_left_iff,
    List.forall₂_map_right_iff, List.forall₂_same]
  exact fun p _ => p.1.writes_placeholder p.2

/-- The arguments of a statement are the placeholders that the parameters need. -/
lemma slots_argumentList (op : Operation) : slots op.argumentList = op.casts := by
  have stops : Stops [] := by simp [Stops]
  have found := all_intercalate op.writes_placeholders stops
  rw [slots, argumentList, String.toList_intercalate]
  simpa [all] using found

/-- The placeholders of a statement are those that the parameters need, and what the name of the
function has. -/
lemma slots_statement (op : Operation) : slots op.statement = slots op.function ++ op.casts := by
  have text : op.statement.toList =
      "select ".toList ++ (op.function.toList ++ (['('] ++
        ([',', ' '].intercalate (op.placeholders.map String.toList) ++
          ")::text as json".toList))) := by
    simp [statement, String.toList_intercalate]
  have behind : all ")::text as json".toList = [] := all_eq_nil (by decide)
  rw [slots, text, all_skip (by decide), all_append (by simp [Stops, isTypeChar]),
    all_skip (by decide), all_intercalate op.writes_placeholders (by simp [Stops, isTypeChar]),
    behind, List.append_nil]
  rfl

end Operation

end MetadataGateway
