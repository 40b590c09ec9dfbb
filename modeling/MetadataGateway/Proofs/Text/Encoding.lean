import Mathlib.Data.List.Forall2
import Mathlib.Tactic.Common
import MetadataGateway.Proofs.Lists
import MetadataGateway.Proofs.Text.Utf8
import MetadataGateway.Text.Hex
import MetadataGateway.Text.Percent

/-!
# How clients write texts in targets and forms

A client writes a text octet by octet: an octet of a letter, of a digit or of a few marks may stand
for itself, and every octet may be written as a percent sign and two hexadecimal digits of either
case. In names and values a space may also be a plus sign; in paths the slash may stand for itself.
`Spells` relates octets to all their spellings, `SpellsForm` pairs to all the forms that spell them.

The characters of a spelling are few (`Place.uses`). That keeps the separators of a form out of what
they separate, and it is why every octet is read back on its own (`SpellsOctet.decode`).
-/

namespace MetadataGateway.Text

/-- Where a text stands. -/
inductive Place where
  /-- In the path of a target. -/
  | path
  /-- In a form, as a name or as a value. -/
  | field
deriving DecidableEq

namespace Place

/-- The characters that may stand for themselves. -/
def admits (place : Place) (c : Char) : Bool :=
  c.isAlphanum || c == '-' || c == '.' || c == '_' || c == '~' || (place = path && c == '/')

/-- The characters that spellings are made of. -/
def uses (place : Place) (c : Char) : Bool :=
  place.admits c || c == '%' || (place = field && c == '+')

/-- What an octet stands for before percent signs are looked at. -/
def plain : Place → UInt8 → UInt8
  | path, b => b
  | field, b => if b = 0x2B then 0x20 else b

end Place

/-- The ways to write one octet. -/
inductive SpellsOctet (place : Place) : UInt8 → List Char → Prop where
  | plain {c} :
    place.admits c = true →
    SpellsOctet place c.toUInt8 [c]
  | escaped {b high low x y} :
    hexDigit? high = some x →
    hexDigit? low = some y →
    b.toNat = 16 * x + y →
    SpellsOctet place b ['%', high, low]
  | plus :
    place = .field →
    SpellsOctet place 0x20 ['+']

/-- The ways to write octets, each in a way of its own. -/
inductive Spells (place : Place) : List UInt8 → List Char → Prop where
  | nil :
    Spells place [] []
  | cons {b octets piece text} :
    SpellsOctet place b piece →
    Spells place octets text →
    Spells place (b :: octets) (piece ++ text)

/-- The ways to write a pair. The equals sign may be left out where the value is empty and something
else remains. -/
inductive SpellsPair : String × String → List Char → Prop where
  | full {name value nameText valueText} :
    Spells .field (Utf8.encodeString name) nameText →
    Spells .field (Utf8.encodeString value) valueText →
    SpellsPair (name, value) (nameText ++ '=' :: valueText)
  | short {name nameText} :
    name ≠ "" →
    Spells .field (Utf8.encodeString name) nameText →
    SpellsPair (name, "") nameText

/-- The ways to write pairs as a form. -/
inductive SpellsForm : List (String × String) → List Char → Prop where
  | intro {pairs segments} :
    List.Forall₂ SpellsPair pairs segments →
    SpellsForm pairs (['&'].intercalate segments)

/-! ## The characters of spellings -/

/-- What holds of the first 128 characters holds of every character with a number below 128. -/
lemma ascii_forall {P : Char → Prop} (all : ∀ n < 0x80, P (Char.ofNat n)) {c : Char}
    (h : c.toNat < 0x80) : P c := by
  have here := all c.toNat h
  rwa [Char.ofNat_toNat] at here

/-- Letters and digits are ASCII. -/
lemma toNat_lt_of_isAlphanum {c : Char} (h : c.isAlphanum = true) : c.toNat < 0x80 := by
  have below : ∀ last : Char, last.toNat < 0x80 → c.val ≤ last.val → c.toNat < 0x80 :=
    fun _ small le => Nat.lt_of_le_of_lt (UInt32.le_iff_toNat_le.1 le) small
  have kinds : (c.isUpper || c.isLower || c.isDigit) = true := h
  rw [Bool.or_eq_true, Bool.or_eq_true] at kinds
  obtain (upper | lower) | digit := kinds
  · exact below 'Z' (by decide) (of_decide_eq_true upper).2
  · exact below 'z' (by decide) (of_decide_eq_true (Bool.and_eq_true_iff.1 lower).2)
  · exact below '9' (by decide) (of_decide_eq_true (Bool.and_eq_true_iff.1 digit).2)

/-- The characters that a place uses are ASCII. -/
lemma Place.toNat_lt_of_uses {place : Place} {c : Char} (h : place.uses c = true) :
    c.toNat < 0x80 := by
  simp only [uses, admits, Bool.or_eq_true, Bool.and_eq_true, beq_iff_eq] at h
  rcases h with ((((((alphanum | rfl) | rfl) | rfl) | rfl) | ⟨-, rfl⟩) | rfl) | ⟨-, rfl⟩
  · exact toNat_lt_of_isAlphanum alphanum
  all_goals decide

/-- A character that separates texts stands in no spelling. -/
lemma Place.not_uses (place : Place) {c : Char} (h : c ∈ ['?', '&', '=']) :
    place.uses c = false := by
  simp only [List.mem_cons, List.not_mem_nil, or_false] at h
  obtain rfl | rfl | rfl := h <;> cases place <;> rfl

/-- A character that may stand for itself is not one that a reader changes. -/
lemma Place.plain_of_admits {place : Place} {c : Char} (h : place.admits c = true) :
    c.toUInt8 ≠ 0x25 ∧ place.plain c.toUInt8 = c.toUInt8 := by
  have used : place.uses c = true := by simp [uses, h]
  have all := ascii_forall (P := fun c => place.admits c = true →
    c.toUInt8 ≠ 0x25 ∧ place.plain c.toUInt8 = c.toUInt8) (by cases place <;> decide)
    (toNat_lt_of_uses used)
  exact all h

/-- Hexadecimal digits are ASCII. -/
lemma toNat_lt_of_hexDigit? {c : Char} (digit : (hexDigit? c).isSome = true) : c.toNat < 0x80 := by
  by_contra large
  have above : ∀ d : Char, d.toNat < 0x80 → ¬ c ≤ d := by
    intro d small below
    have order : c.toNat ≤ d.toNat := UInt32.le_iff_toNat_le.1 (Char.le_def.1 below)
    omega
  simp [hexDigit?, above] at digit

/-- A hexadecimal digit is a letter or a digit, and its octet has the same value. -/
lemma hexDigit?_spec {c : Char} {x : Nat} (digit : hexDigit? c = some x) :
    c.isAlphanum = true ∧ ∃ y, hexValue? c.toUInt8 = some y ∧ y.toNat = x := by
  have isSome : (hexDigit? c).isSome = true := by rw [digit]; rfl
  have all := ascii_forall (P := fun c => (hexDigit? c).isSome = true →
    c.isAlphanum = true ∧ (hexValue? c.toUInt8).map UInt8.toNat = hexDigit? c) (by decide)
    (toNat_lt_of_hexDigit? isSome)
  obtain ⟨alphanum, value⟩ := all isSome
  rw [digit] at value
  exact ⟨alphanum, Option.map_eq_some_iff.1 value⟩

/-- The spelling of an octet has only characters that its place uses. -/
lemma SpellsOctet.uses {place b piece} (spells : SpellsOctet place b piece) :
    ∀ c ∈ piece, place.uses c = true := by
  cases spells with
  | plain admitted => simp [Place.uses, admitted]
  | escaped high low _ =>
    simp [Place.uses, Place.admits, (hexDigit?_spec high).1, (hexDigit?_spec low).1]
  | plus field => simp [Place.uses, field]

/-- The spelling of octets has only characters that its place uses. -/
lemma Spells.uses {place octets text} (spells : Spells place octets text) :
    ∀ c ∈ text, place.uses c = true := by
  induction spells with
  | nil => simp
  | cons octet _ ih =>
    intro c here
    obtain front | back := List.mem_append.1 here
    · exact octet.uses c front
    · exact ih c back

/-! ## Reading a text -/

/-- An ASCII character is encoded as one octet. -/
lemma encode_ascii {c : Char} (h : c.toNat < 0x80) (rest : List Char) :
    Utf8.encode (c :: rest) = c.toUInt8 :: Utf8.encode rest := by
  have one : String.utf8EncodeChar c = [c.toUInt8] := by
    simp only [String.utf8EncodeChar]
    exact if_pos (Nat.le_of_lt_succ h)
  simp [Utf8.encode, one]

/-- An ASCII text is encoded octet by octet. -/
lemma encode_eq_map {text : List Char} (h : ∀ c ∈ text, c.toNat < 0x80) :
    Utf8.encode text = text.map Char.toUInt8 := by
  induction text with
  | nil => rfl
  | cons c rest ih =>
    rw [encode_ascii (h c List.mem_cons_self), List.map_cons,
      ih fun d here => h d (List.mem_cons_of_mem c here)]

/-- Two texts are encoded one behind the other. -/
lemma encode_append (front back : List Char) :
    Utf8.encode (front ++ back) = Utf8.encode front ++ Utf8.encode back :=
  List.flatMap_append

/-- An octet that is no percent sign stands for itself. -/
lemma percentDecode_cons {b : UInt8} (h : b ≠ 0x25) (rest : List UInt8) :
    percentDecode (b :: rest) = b :: percentDecode rest := by
  match rest with
  | [] => rfl
  | [_] => rfl
  | _ :: _ :: _ => rw [percentDecode, if_neg h]

/-- The spelling of an octet is read as that octet. -/
lemma SpellsOctet.decode {place b piece} (spells : SpellsOctet place b piece) (text : List Char) :
    percentDecode ((Utf8.encode (piece ++ text)).map place.plain) =
      b :: percentDecode ((Utf8.encode text).map place.plain) := by
  have small := fun c here => Place.toNat_lt_of_uses (spells.uses c here)
  cases spells with
  | @plain c admitted =>
    obtain ⟨not_percent, plain⟩ := Place.plain_of_admits admitted
    rw [List.singleton_append, encode_ascii (small c (by simp)), List.map_cons, plain,
      percentDecode_cons not_percent]
  | @escaped b h l x y high low value =>
    -- The reader of a form makes spaces of plus signs first; nothing in the escape is one.
    have percent : place.plain '%'.toUInt8 = 0x25 := by cases place <;> rfl
    obtain ⟨highAlphanum, high', highValue, rfl⟩ := hexDigit?_spec high
    obtain ⟨lowAlphanum, low', lowValue, rfl⟩ := hexDigit?_spec low
    have highPlain : place.plain h.toUInt8 = h.toUInt8 :=
      (Place.plain_of_admits (by simp [Place.admits, highAlphanum])).2
    have lowPlain : place.plain l.toUInt8 = l.toUInt8 :=
      (Place.plain_of_admits (by simp [Place.admits, lowAlphanum])).2
    have pair : hexPair? h.toUInt8 l.toUInt8 = some b := by
      simp only [hexPair?, highValue, lowValue, Option.some.injEq, ← UInt8.toNat_inj,
        UInt8.toNat_add, UInt8.toNat_mul, value]
      have bound := b.toNat_lt
      simp only [UInt8.reduceToNat]
      omega
    simp only [List.cons_append, List.nil_append]
    rw [encode_ascii (small '%' (by simp)), encode_ascii (small h (by simp)),
      encode_ascii (small l (by simp))]
    simp only [List.map_cons, percent, highPlain, lowPlain]
    simp [percentDecode, pair]
  | plus field =>
    subst field
    rw [List.singleton_append, encode_ascii (small '+' (by simp)), List.map_cons]
    exact percentDecode_cons (by decide) _

/-- A spelling is decoded to the octets that it spells. -/
lemma Spells.decode {place octets text} (spells : Spells place octets text) :
    percentDecode ((Utf8.encode text).map place.plain) = octets := by
  induction spells with
  | nil => rfl
  | cons octet _ ih => rw [octet.decode, ih]

/-- The spelling of a text is read as that text. -/
lemma Spells.percentDecodeText {place s text} (spells : Spells place (Utf8.encodeString s) text) :
    percentDecodeText ((Utf8.encode text).map place.plain) = s := by
  rw [Text.percentDecodeText, spells.decode, Utf8.encodeString, Utf8.decodeLossy_encode,
    String.ofList_toList]

/-! ## Reading pairs and forms -/

/-- Characters with numbers below 128 have octets of their own. -/
lemma toUInt8_injective {c d : Char} (hc : c.toNat < 0x80) (hd : d.toNat < 0x80)
    (same : c.toUInt8 = d.toUInt8) : c = d := by
  have number : ∀ c : Char, c.toNat < 0x80 → c.toUInt8.toNat = c.toNat := fun c h =>
    UInt8.toNat_ofNat_of_lt' (Nat.lt_trans h (by decide))
  rw [← Char.ofNat_toNat c, ← Char.ofNat_toNat d, ← number c hc, ← number d hd, same]

/-- A separator stands in no spelling. -/
lemma Spells.separator_not_mem {place octets text} (spells : Spells place octets text) {c : Char}
    (separates : c ∈ ['?', '&', '=']) : c ∉ text := by
  intro here
  have used := spells.uses c here
  rw [place.not_uses separates] at used
  cases used

/-- Nor does its octet stand among the octets of a spelling. -/
lemma Spells.octet_not_mem {place octets text} (spells : Spells place octets text) {c : Char}
    (separates : c ∈ ['?', '&', '=']) : c.toUInt8 ∉ Utf8.encode text := by
  have small : ∀ d ∈ text, d.toNat < 0x80 := fun d here =>
    Place.toNat_lt_of_uses (spells.uses d here)
  rw [encode_eq_map small]
  intro here
  obtain ⟨d, there, same⟩ := List.mem_map.1 here
  have separator : c.toNat < 0x80 := by
    simp only [List.mem_cons, List.not_mem_nil, or_false] at separates
    obtain rfl | rfl | rfl := separates <;> decide
  obtain rfl := toUInt8_injective (small d there) separator same
  exact spells.separator_not_mem separates there

/-- Octets that are free of a separator stand before the place of the cut. -/
lemma cutAt_append {sep : UInt8} {front : List UInt8} (absent : sep ∉ front) (back : List UInt8) :
    cutAt sep (front ++ back) = (front ++ (cutAt sep back).1, (cutAt sep back).2) := by
  simp only [cutAt, takeWhile_ne_append absent, dropWhile_ne_append absent]

/-- A separator in front is cut off with nothing before it. -/
lemma cutAt_self (sep : UInt8) (back : List UInt8) : cutAt sep (sep :: back) = ([], back) := by
  simp [cutAt]

/-- The spelling of a text in a path is decoded to the text. -/
lemma Spells.pathText {s text} (spells : Spells .path (Utf8.encodeString s) text) :
    Text.percentDecodeText (Utf8.encode text) = s := by
  have read := spells.percentDecodeText
  rwa [show Place.path.plain = id from rfl, List.map_id] at read

/-- The spelling of a text in a field is decoded to the text. -/
lemma Spells.formText {s text} (spells : Spells .field (Utf8.encodeString s) text) :
    formText (Utf8.encode text) = s :=
  spells.percentDecodeText

/-- The spelling of a pair is decoded to the pair. -/
lemma SpellsPair.formPair {pair text} (spells : SpellsPair pair text) :
    formPair (Utf8.encode text) = pair := by
  cases spells with
  | @full name value nameText valueText spelled spelled' =>
    have absent : 0x3D ∉ Utf8.encode nameText := spelled.octet_not_mem (c := '=') (by decide)
    have octets : Utf8.encode (nameText ++ '=' :: valueText) =
        Utf8.encode nameText ++ 0x3D :: Utf8.encode valueText := by
      rw [encode_append, encode_ascii (by decide)]
      rfl
    rw [octets, Text.formPair, cutAt_append absent, cutAt_self, List.append_nil]
    simp only [spelled.formText, spelled'.formText]
  | @short name _ _ spelled =>
    have absent : 0x3D ∉ Utf8.encode text := spelled.octet_not_mem (c := '=') (by decide)
    have cut : cutAt 0x3D (Utf8.encode text) = (Utf8.encode text, []) := by
      simpa [cutAt] using cutAt_append absent []
    simp only [Text.formPair, cut, spelled.formText]
    rfl

/-- The spelling of a pair is not empty. -/
lemma SpellsPair.ne_nil {pair text} (spells : SpellsPair pair text) : Utf8.encode text ≠ [] := by
  cases spells with
  | full =>
    rw [encode_append, encode_ascii (by decide)]
    simp
  | @short name _ some spelled =>
    intro none
    have same := spelled.formText
    rw [none] at same
    exact some same.symm

/-- The octet that separates pairs stands in the spelling of no pair. -/
lemma SpellsPair.separator_not_mem {pair text} (spells : SpellsPair pair text) :
    0x26 ∉ Utf8.encode text := by
  cases spells with
  | full name value =>
    rw [encode_append, encode_ascii (by decide)]
    have front := name.octet_not_mem (c := '&') (by decide)
    have back := value.octet_not_mem (c := '&') (by decide)
    intro here
    obtain inFront | rest := List.mem_append.1 here
    · exact front inFront
    · obtain equals | inBack := List.mem_cons.1 rest
      · exact absurd equals (by decide)
      · exact back inBack
  | short _ name => exact name.octet_not_mem (c := '&') (by decide)

/-- The octets of texts that are joined are the octets of the texts, joined. -/
lemma encode_intercalate (sep : Char) (texts : List (List Char)) :
    Utf8.encode ([sep].intercalate texts) =
      (Utf8.encode [sep]).intercalate (texts.map Utf8.encode) := by
  induction texts with
  | nil => rfl
  | cons text rest ih =>
    cases rest with
    | nil => simp
    | cons next rest =>
      rw [List.intercalate_cons_cons, encode_append, encode_append, ih]
      simp

/-- The spellings of pairs are decoded to the pairs, in order. -/
lemma map_formPair {pairs segments} (each : List.Forall₂ SpellsPair pairs segments) :
    (((segments.map Utf8.encode).filter (· != [])).map formPair) = pairs := by
  induction each with
  | nil => rfl
  | cons spells _ ih =>
    rw [List.map_cons, List.filter_cons_of_pos (p := (· != [])) (bne_iff_ne.2 spells.ne_nil),
      List.map_cons, spells.formPair, ih]

/-- The spelling of a pair has no separator of pairs in it. -/
lemma separator_not_mem_segments {pairs segments} (each : List.Forall₂ SpellsPair pairs segments) :
    ∀ octets ∈ segments.map Utf8.encode, 0x26 ∉ octets := by
  induction each with
  | nil => simp
  | cons spells _ ih =>
    rw [List.map_cons, List.forall_mem_cons]
    exact ⟨spells.separator_not_mem, ih⟩

/-- The pairs of segments that are joined are those of the segments that are not empty. -/
lemma formPairs_intercalate {segments : List (List UInt8)}
    (whole : ∀ octets ∈ segments, 0x26 ∉ octets) :
    formPairs ([0x26].intercalate segments) = (segments.filter (· != [])).map formPair := by
  rw [formPairs]
  -- The cut of no octets at all is one empty segment, not none.
  by_cases none : segments = []
  · subst none
    rfl
  · rw [List.splitOn_intercalate 0x26 whole none]

/-- The spelling of a form is decoded to its pairs. -/
lemma SpellsForm.formPairs {pairs text} (spells : SpellsForm pairs text) :
    formPairs (Utf8.encode text) = pairs := by
  obtain ⟨each⟩ := spells
  have separator : Utf8.encode ['&'] = [0x26] := rfl
  rw [encode_intercalate, separator, formPairs_intercalate (separator_not_mem_segments each),
    map_formPair each]

end MetadataGateway.Text
