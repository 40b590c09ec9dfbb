import MetadataGateway.Net.Address
import MetadataGateway.Proofs.Lists
import MetadataGateway.Proofs.Number.IntegerText

/-!
# Socket addresses are read back

An address of version 4 that can be read, with a colon and the digits of a port behind it, is read
as the socket address of both (`ofString?_ip4`).
-/

namespace MetadataGateway.Net

open Number

/-- A text is cut at the first mark. -/
lemma cut?_append {mark : Char} {front : List Char} (absent : mark ∉ front) (behind : List Char) :
    cut? mark (front ++ mark :: behind) = some (front, behind) := by
  have mem : mark ∈ front ++ mark :: behind := List.mem_append_right _ List.mem_cons_self
  rw [cut?, if_pos mem, takeWhile_ne_append absent, dropWhile_ne_append absent,
    List.takeWhile_cons_of_neg (by simp), List.dropWhile_cons_of_neg (by simp), List.append_nil]
  rfl

/-- A number below the bound is read from its digits. -/
lemma number?_toDigits {bound n : Nat} (below : n < bound) :
    number? bound (Nat.toDigits 10 n) = some n := by
  obtain ⟨some_digit, all_digits⟩ := numeral_toDigits n
  rw [number?, natOfDigits_toDigits, if_pos]
  simp only [Bool.and_eq_true, bne_iff_ne, List.all_eq_true, decide_eq_true_eq]
  exact ⟨⟨some_digit, all_digits⟩, below⟩

/-- An address of version 4 and a port are read back from their texts with a colon between them. -/
theorem ofString?_ip4 {name : List Char} {ip : Ip4} {port : Nat} (read : ip4? name = some ip)
    (digits : name.all (fun c => c.isDigit || c == '.') = true) (below : port < 65536) :
    SocketAddress.ofString? (String.ofList (name ++ ':' :: Nat.toDigits 10 port)) =
      some (.v4 ip port) := by
  rw [List.all_eq_true] at digits
  have no_colon : ':' ∉ name := fun mem => absurd (digits ':' mem) (by decide)
  have cut := cut?_append no_colon (Nat.toDigits 10 port)
  rw [SocketAddress.ofString?, String.toList_ofList]
  split
  · rename_i bracket
    cases name with
    | nil => cases read
    | cons c name =>
      cases bracket
      exact absurd (digits '[' List.mem_cons_self) (by decide)
  · simp only [cut, read, port?, number?_toDigits below, Option.bind_eq_bind, Option.bind_some]

end MetadataGateway.Net
