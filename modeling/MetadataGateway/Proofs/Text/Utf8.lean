import Mathlib.Tactic.Common
import MetadataGateway.Text.Utf8

/-!
# What is written in UTF-8 is read back

A character is written in one to four octets, by its number. The first octet tells how many there
are and has the highest bits, and each octet behind it brings six more bits. The reader puts them
together: `decodeFrom_one` to `decodeFrom_four` do so for each number of octets,
`decodeFrom_encodeChar` for every character, and `decodeLossy_encode` goes through a text.
-/

namespace MetadataGateway.Utf8

/-! ## Octets -/

/-- The only octet of a character below U+0080. -/
lemma lead_one {n : Nat} (h : n ≤ 0x7F) : lead (UInt8.ofNat n) = .char (Char.ofNat n) := by
  have number : (UInt8.ofNat n).toNat = n :=
    UInt8.toNat_ofNat_of_lt' (by simp only [UInt8.size]; omega)
  rw [lead, if_pos, number]
  rw [UInt8.le_iff_toNat_le, number]
  exact h

/-- The first of two octets. The numbers that it leaves out are those of single octets. -/
lemma lead_two : ∀ a < 0x20, 2 ≤ a →
    lead (UInt8.ofNat (a + 0xC0)) = .more ⟨a, 1, 0x80, 0xBF⟩ := by
  decide

/-- The first of three octets. -/
lemma lead_three : ∀ a < 0x10,
    lead (UInt8.ofNat (a + 0xE0)) =
      .more ⟨a, 2, if a = 0x0 then 0xA0 else 0x80, if a = 0xD then 0x9F else 0xBF⟩ := by
  decide

/-- The first of four octets. -/
lemma lead_four : ∀ a ≤ 4,
    lead (UInt8.ofNat (a + 0xF0)) =
      .more ⟨a, 3, if a = 0 then 0x90 else 0x80, if a = 4 then 0x8F else 0xBF⟩ := by
  decide

section feed

variable {k value missing : Nat} {low high : UInt8}

/-- An octet that may stand where it stands brings six bits. -/
lemma feed_octet (h : k < 0x40) (above : low.toNat ≤ k + 0x80) (below : k + 0x80 ≤ high.toNat) :
    Pending.feed ⟨value, missing, low, high⟩ (UInt8.ofNat (k + 0x80)) =
      if missing ≤ 1 then .char (Char.ofNat (value * 0x40 + k))
      else .more ⟨value * 0x40 + k, missing - 1, 0x80, 0xBF⟩ := by
  have number : (UInt8.ofNat (k + 0x80)).toNat = k + 0x80 :=
    UInt8.toNat_ofNat_of_lt' (by simp only [UInt8.size]; omega)
  simp only [Pending.feed, UInt8.le_iff_toNat_le, number, above, below, decide_true,
    Bool.and_self, if_true, Nat.add_sub_cancel]

/-- Six bits that are not the last, where they have no bounds of their own. -/
lemma feed_next (h : k < 0x40) :
    Pending.feed ⟨value, missing + 2, 0x80, 0xBF⟩ (UInt8.ofNat (k + 0x80)) =
      .more ⟨value * 0x40 + k, missing + 1, 0x80, 0xBF⟩ := by
  rw [feed_octet h (Nat.le_add_left _ _) (by simp; omega), if_neg (by omega)]
  rfl

/-- The last six bits complete a character. -/
lemma feed_last (h : k < 0x40) :
    Pending.feed ⟨value, 1, 0x80, 0xBF⟩ (UInt8.ofNat (k + 0x80)) =
      .char (Char.ofNat (value * 0x40 + k)) := by
  rw [feed_octet h (Nat.le_add_left _ _) (by simp; omega), if_pos (by omega)]

end feed

/-! ## Characters by their length -/

section length

variable {a i j k : Nat} {rest : List UInt8}

/-- A character of one octet is decoded. -/
lemma decodeFrom_one (h : a ≤ 0x7F) :
    decodeFrom none (UInt8.ofNat a :: rest) = Char.ofNat a :: decodeFrom none rest := by
  simp only [decodeFrom, lead_one h]

/-- A character of two octets is decoded. -/
lemma decodeFrom_two (ha : a < 0x20) (hk : k < 0x40) (least : 2 ≤ a) :
    decodeFrom none (UInt8.ofNat (a + 0xC0) :: UInt8.ofNat (k + 0x80) :: rest) =
      Char.ofNat (a * 0x40 + k) :: decodeFrom none rest := by
  simp only [decodeFrom, lead_two a ha least, feed_last hk]

/-- Three octets, where two would not do and which spell no surrogate. -/
lemma decodeFrom_three (ha : a < 0x10) (hj : j < 0x40) (hk : k < 0x40)
    (least : a = 0x0 → 0x20 ≤ j) (scalar : a = 0xD → j < 0x20) :
    decodeFrom none
        (UInt8.ofNat (a + 0xE0) :: UInt8.ofNat (j + 0x80) :: UInt8.ofNat (k + 0x80) :: rest) =
      Char.ofNat ((a * 0x40 + j) * 0x40 + k) :: decodeFrom none rest := by
  have second : Pending.feed ⟨a, 2, if a = 0x0 then 0xA0 else 0x80, if a = 0xD then 0x9F else 0xBF⟩
      (UInt8.ofNat (j + 0x80)) = .more ⟨a * 0x40 + j, 1, 0x80, 0xBF⟩ := by
    rw [feed_octet hj, if_neg (by omega)]
    · split
      · simp only [UInt8.reduceToNat]
        omega
      · exact Nat.le_add_left _ _
    · split <;> simp only [UInt8.reduceToNat] <;> omega
  simp only [decodeFrom, lead_three a ha, second, feed_last hk]

/-- Four octets, where three would not do and which spell no number above U+10FFFF. -/
lemma decodeFrom_four (ha : a ≤ 4) (hi : i < 0x40) (hj : j < 0x40) (hk : k < 0x40)
    (least : a = 0 → 0x10 ≤ i) (greatest : a = 4 → i < 0x10) :
    decodeFrom none
        (UInt8.ofNat (a + 0xF0) :: UInt8.ofNat (i + 0x80) :: UInt8.ofNat (j + 0x80) ::
          UInt8.ofNat (k + 0x80) :: rest) =
      Char.ofNat (((a * 0x40 + i) * 0x40 + j) * 0x40 + k) :: decodeFrom none rest := by
  have second : Pending.feed ⟨a, 3, if a = 0 then 0x90 else 0x80, if a = 4 then 0x8F else 0xBF⟩
      (UInt8.ofNat (i + 0x80)) = .more ⟨a * 0x40 + i, 2, 0x80, 0xBF⟩ := by
    rw [feed_octet hi, if_neg (by omega)]
    · split
      · simp only [UInt8.reduceToNat]
        omega
      · exact Nat.le_add_left _ _
    · split <;> simp only [UInt8.reduceToNat] <;> omega
  simp only [decodeFrom, lead_four a ha, second, feed_next hj, feed_last hk]

end length

/-! ## Texts -/

/-- The octets of one character are read as that character. -/
lemma decodeFrom_encodeChar (c : Char) (rest : List UInt8) :
    decodeFrom none (String.utf8EncodeChar c ++ rest) = c :: decodeFrom none rest := by
  have scalar : c.val.toNat < 0xD800 ∨ 0xDFFF < c.val.toNat ∧ c.val.toNat < 0x110000 := c.valid
  have same : Char.ofNat c.val.toNat = c := Char.ofNat_toNat c
  simp only [String.utf8EncodeChar]
  generalize c.val.toNat = v at scalar same
  rw [← same]
  split_ifs with one two three
  · exact decodeFrom_one one
  · have number : v / 64 % 32 * 64 + v % 64 = v := by omega
    simp only [List.cons_append, List.nil_append]
    rw [decodeFrom_two (by omega) (by omega) (by omega), number]
  · have number : (v / 4096 % 16 * 64 + v / 64 % 64) * 64 + v % 64 = v := by omega
    simp only [List.cons_append, List.nil_append]
    rw [decodeFrom_three (by omega) (by omega) (by omega) (by omega) (by omega), number]
  · have number :
        ((v / 262144 % 8 * 64 + v / 4096 % 64) * 64 + v / 64 % 64) * 64 + v % 64 = v := by omega
    simp only [List.cons_append, List.nil_append]
    rw [decodeFrom_four (by omega) (by omega) (by omega) (by omega) (by omega) (by omega), number]

/-- A text is read back from its octets. -/
theorem decodeLossy_encode (text : List Char) : decodeLossy (encode text) = text := by
  unfold decodeLossy encode
  induction text with
  | nil => rfl
  | cons c rest ih => rw [List.flatMap_cons, decodeFrom_encodeChar, ih]

/-- The octets of a text are accepted as that text. -/
theorem decode?_encode (text : List Char) : decode? (encode text) = some text := by
  rw [decode?, decodeLossy_encode, if_pos rfl]

/-! ## Octets of texts -/

/-- An octet below 0x80 is the only octet of its character. -/
lemma eq_of_mem_encodeChar {c : Char} {b : UInt8} (small : b < 0x80)
    (mem : b ∈ String.utf8EncodeChar c) : c = Char.ofNat b.toNat := by
  have below : b.toNat < 0x80 := UInt8.lt_iff_toNat_lt.1 small
  have large {n : Nat} (low : 0x80 ≤ n) (high : n < 0x100) : b ≠ UInt8.ofNat n := by
    rintro rfl
    rw [UInt8.toNat_ofNat_of_lt' high] at below
    omega
  simp only [String.utf8EncodeChar] at mem
  split_ifs at mem with one two three <;>
    simp only [List.mem_cons, List.not_mem_nil, or_false] at mem
  · have number : b.toNat = c.toNat := by
      rw [mem]
      exact UInt8.toNat_ofNat_of_lt' (Nat.lt_of_le_of_lt one (by decide))
    rw [number, Char.ofNat_toNat]
  · rcases mem with mem | mem <;> exact absurd mem (large (by omega) (by omega))
  · rcases mem with mem | mem | mem <;> exact absurd mem (large (by omega) (by omega))
  · rcases mem with mem | mem | mem | mem <;> exact absurd mem (large (by omega) (by omega))

/-- A character below U+0080 is in a text if its octet is in the octets of the text. -/
lemma mem_of_octet_mem_encode {b : UInt8} {text : List Char} (small : b < 0x80)
    (mem : b ∈ encode text) : Char.ofNat b.toNat ∈ text := by
  obtain ⟨c, here, inside⟩ := List.mem_flatMap.1 mem
  exact eq_of_mem_encodeChar small inside ▸ here

end MetadataGateway.Utf8
