import MetadataGateway.Proofs.Cache.Reply
import MetadataGateway.Proofs.Text.Encoding

/-!
# Commands are read back as they were written

The reader of commands cuts a line where it ends and takes as many octets behind it as the line
announces, so a value may hold anything: ends of lines, and whole commands. A key may not, and the
keys of the cache are 32 hexadecimal digits whatever the target that they stand for
(`keyOctets_ofUri`). So commands with such keys are read back one by one, with nothing left over
(`Command.ofOctets?_encode`).
-/

namespace MetadataGateway

/-! ## Fingerprints as keys -/

/-- The hexadecimal digits in lower case. -/
def hexAlphabet : List Char :=
  "0123456789abcdef".toList

/-- Octets in hexadecimal have only hexadecimal digits. -/
lemma Text.mem_hex {octets : List UInt8} {c : Char} (here : c ∈ hex octets) : c ∈ hexAlphabet := by
  have digits : ∀ n < 16, hexDigit n ∈ hexAlphabet := by decide
  obtain ⟨b, -, pair⟩ := List.mem_flatMap.1 here
  have small : b.toNat < 256 := b.toNat_lt
  rw [hexPair, List.mem_pair] at pair
  obtain rfl | rfl := pair
  · exact digits _ (by omega)
  · exact digits _ (by omega)

namespace Fingerprint

/-- A fingerprint has 32 characters. -/
lemma length_ofUri (uri : String) : (ofUri uri).text.length = 32 := by
  rw [ofUri, String.length_ofList, Text.length_hex, Md5.length_digest]

/-- A fingerprint has only hexadecimal digits. -/
lemma mem_ofUri {uri : String} {c : Char} (here : c ∈ (ofUri uri).text.toList) :
    c ∈ hexAlphabet := by
  rw [ofUri, String.toList_ofList] at here
  exact Text.mem_hex here

end Fingerprint

namespace Cache

/-- The octets of a fingerprint are the octets of a key. -/
lemma keyOctets_ofUri (uri : String) : (keyOctets (.ofUri uri)).all Reply.isKeyOctet = true := by
  have ascii : ∀ c ∈ hexAlphabet, c.toNat < 0x80 :=
    List.forall_iff_forall_mem.1 (by decide)
  have regular : ∀ c ∈ hexAlphabet, Reply.isKeyOctet c.toUInt8 = true :=
    List.forall_iff_forall_mem.1 (by decide)
  rw [keyOctets, octets, Utf8.encodeString,
    Text.encode_eq_map fun c here => ascii c (Fingerprint.mem_ofUri here), List.all_map,
    List.all_eq_true]
  exact fun c here => regular c (Fingerprint.mem_ofUri here)

namespace Command

/-! ## Lines -/

/-- The key of a command. -/
def key : Command → List UInt8
  | get key => key
  | set key _ => key

/-- The words on the line of a command. -/
def words : Command → List (List UInt8)
  | get key => [octets "get", key]
  | set key payload => [octets "set", key, octets "0", octets "0", numeral payload.length]

/-- What stands behind the line of a command. -/
def blockOf : Command → List UInt8
  | get _ => []
  | set _ payload => payload ++ lineEnd

/-- The line of a command separates its words by blanks. -/
def line (c : Command) : List UInt8 :=
  [0x20].intercalate c.words

/-- A command is its line, and its block if it has one. -/
lemma encode_eq (c : Command) : c.encode = c.line ++ (lineEnd ++ c.blockOf) := by
  cases c with
  | get key =>
    rw [encode, line, words, blockOf, List.append_nil,
      show octets "get " = octets "get" ++ [0x20] from rfl]
    simp [List.intercalate]
  | set key payload =>
    rw [encode, line, words, blockOf, numeral, octets_append,
      show octets "set " = octets "set" ++ [0x20] from rfl,
      show octets " 0 0 " = [0x20] ++ octets "0" ++ [0x20] ++ octets "0" ++ [0x20] from rfl]
    simp [List.intercalate]

/-- The key of a command is one that stands for a single word. -/
def Regular (c : Command) : Prop :=
  c.key.all Reply.isKeyOctet = true

/-- No octet of a key separates words or ends a line. -/
lemma Regular.key_free {c : Command} (regular : c.Regular) : 0x20 ∉ c.key ∧ 0x0D ∉ c.key :=
  ⟨fun here => absurd (List.all_eq_true.1 regular _ here) (by decide),
    fun here => absurd (List.all_eq_true.1 regular _ here) (by decide)⟩

/-- A numeral has no blank in it and no end of a line. -/
lemma numeral_free (n : Nat) : 0x20 ∉ numeral n ∧ 0x0D ∉ numeral n :=
  ⟨fun here => absurd (List.all_eq_true.1 (numeral_all n) _ here) (by decide),
    fun here => absurd (List.all_eq_true.1 (numeral_all n) _ here) (by decide)⟩

/-- No word on the line of a regular command has a blank or an end of the line. -/
lemma Regular.words_free {c : Command} (regular : c.Regular) :
    ∀ w ∈ c.words, 0x20 ∉ w ∧ 0x0D ∉ w := by
  have key := regular.key_free
  cases c with
  | get k =>
    have verb : 0x20 ∉ octets "get" ∧ 0x0D ∉ octets "get" := by decide
    simp only [words, List.forall_mem_cons]
    exact ⟨verb, key, List.forall_mem_nil _⟩
  | set k payload =>
    have verb : 0x20 ∉ octets "set" ∧ 0x0D ∉ octets "set" := by decide
    have zero : 0x20 ∉ octets "0" ∧ 0x0D ∉ octets "0" := by decide
    have length := numeral_free payload.length
    simp only [words, List.forall_mem_cons]
    exact ⟨verb, key, zero, zero, length, List.forall_mem_nil _⟩

/-- What has no return has no end of a line. -/
lemma cutLine?_eq_none {text : List UInt8} (free : 0x0D ∉ text) : cutLine? text = none := by
  induction text with
  | nil => rfl
  | cons b text ih =>
    obtain ⟨other, free⟩ := not_or.1 (mt List.mem_cons.2 free)
    rw [cutLine?, ih free, if_neg]
    · rfl
    · simp [Ne.symm other]

/-- What stands in no word and does not separate them does not stand on the line. -/
lemma not_mem_intercalate {b : UInt8} {ws : List (List UInt8)} (free : ∀ w ∈ ws, b ∉ w)
    (other : b ≠ 0x20) : b ∉ [0x20].intercalate ws := by
  induction ws with
  | nil => exact List.not_mem_nil
  | cons w ws ih =>
    obtain ⟨first, rest⟩ := List.forall_mem_cons.1 free
    cases ws with
    | nil => rwa [List.intercalate_singleton]
    | cons w' ws =>
      rw [List.intercalate_cons_cons, List.mem_append, List.mem_append, List.mem_singleton]
      rintro ((here | here) | here)
      · exact first here
      · exact other here
      · exact ih rest here

/-- The line of a regular command is cut where it ends, and into its words. -/
lemma Regular.cut_line {c : Command} (regular : c.Regular) (tail : List UInt8) :
    cutLine? (c.line ++ (lineEnd ++ tail)) = some (c.line, tail) ∧
      c.line.splitOn 0x20 = c.words := by
  have free := regular.words_free
  have some_word : c.words ≠ [] := by cases c <;> simp [words]
  constructor
  · exact Reply.cutLine?_line (cutLine?_eq_none
      (not_mem_intercalate (fun w here => (free w here).2) (by decide))) tail
  · exact List.splitOn_intercalate 0x20 (fun w here => (free w here).1) some_word

/-! ## Commands -/

/-- A regular command is read back, whatever its value and whatever stands behind it. -/
theorem Regular.decode?_encode {c : Command} (regular : c.Regular) (tail : List UInt8) :
    decode? (c.encode ++ tail) = some (c, tail) := by
  obtain ⟨line, parts⟩ := regular.cut_line (c.blockOf ++ tail)
  rw [encode_eq, List.append_assoc, List.append_assoc, decode?, line]
  simp only [ofLine?, parts]
  cases c with
  | get key => rfl
  | set key payload =>
    have zero : (natOf? (octets "0")).isSome = true := by decide
    simp [words, blockOf, zero, natOf?_numeral, lineEnd]

/-- The commands that octets are, if they are commands. Every command takes an octet at least. -/
def ofOctets? (text : List UInt8) : Option (List Command) :=
  decodeAll? text.length text

/-- A command has at least one octet. -/
lemma length_encode_pos (c : Command) : 0 < c.encode.length := by
  rw [encode_eq]
  simp [lineEnd]

/-- Regular commands one behind the other are read back, all of them and in order. -/
lemma decodeAll?_encode {cs : List Command} (regular : ∀ c ∈ cs, c.Regular) {fuel : Nat}
    (enough : (cs.flatMap encode).length ≤ fuel) :
    decodeAll? fuel (cs.flatMap encode) = some cs := by
  induction cs generalizing fuel with
  | nil => cases fuel <;> rfl
  | cons c cs ih =>
    obtain ⟨first, rest⟩ := List.forall_mem_cons.1 regular
    rw [List.flatMap_cons] at enough ⊢
    rw [List.length_append] at enough
    have pos := c.length_encode_pos
    obtain ⟨fuel, rfl⟩ : ∃ less, fuel = less + 1 := ⟨fuel - 1, by omega⟩
    have read := first.decode?_encode (cs.flatMap encode)
    obtain ⟨b, more, split⟩ := List.exists_cons_of_length_pos
      (l := c.encode ++ cs.flatMap encode) (by rw [List.length_append]; omega)
    rw [split] at read ⊢
    have behind : decodeAll? fuel (cs.flatMap encode) = some cs := ih rest (by omega)
    rw [decodeAll?, read]
    simp only [Option.bind_eq_bind, Option.bind_some, behind]

/-- Regular commands that are written one behind another are read as these commands. -/
theorem ofOctets?_encode {cs : List Command} (regular : ∀ c ∈ cs, c.Regular) :
    ofOctets? (cs.flatMap encode) = some cs :=
  decodeAll?_encode regular (Nat.le_refl _)

/-- A value that looks like commands is read as a value. -/
example :
    let c := set (octets "k") (octets "\r\nget x\r\n")
    ofOctets? (c.encode ++ (get (octets "k")).encode) = some [c, get (octets "k")] := by
  decide

end Command
end Cache
end MetadataGateway
