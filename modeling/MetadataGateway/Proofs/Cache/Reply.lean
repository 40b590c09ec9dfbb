import Mathlib.Tactic.Common
import Mathlib.Tactic.IntervalCases
import MetadataGateway.Cache.Reply
import MetadataGateway.Proofs.Cache.Numeral

/-!
# Replies and the reader of replies

The reader takes exactly one reply from the front of what has come. Three statements make that
precise. What it has read stays read when more comes (`Reply.decode_append`). A regular reply is
read back as it was written (`Reply.decode_encode`), where a reply is regular if its keys are keys
and its messages are single lines. So the front of a regular reply is read as that reply or as
nothing, and as that reply only if it is the whole of it (`Reply.decode_of_append_eq_encode`).
-/

namespace MetadataGateway.Cache

open Reading

variable {α β : Type}

/-- What is read next begins where something has been read. -/
@[simp] lemma Reading.done_andThen (a : α) (rest : List UInt8)
    (next : α → List UInt8 → Reading β) : (done a rest).andThen next = next a rest :=
  rfl

/-- Nothing else is tried where something has been read. -/
@[simp] lemma Reading.done_orElse (a : α) (rest : List UInt8) (other : Unit → Reading α) :
    (done a rest).orElse other = done a rest :=
  rfl

/-- Where something is refused, the other is tried. -/
@[simp] lemma Reading.refused_orElse (other : Unit → Reading α) :
    refused.orElse other = other () :=
  rfl

/-! ## Readers that more octets do not disturb -/

/-- What has been read stays read when more comes. -/
def Reading.Keeps (f : List UInt8 → Reading α) : Prop :=
  ∀ ⦃text a rest⦄ tail, f text = done a rest → f (text ++ tail) = done a (rest ++ tail)

/-- What has been read stays read when more comes, and what is refused stays refused. -/
structure Reading.Steady (f : List UInt8 → Reading α) : Prop where
  keeps : Keeps f
  refused : ∀ ⦃text⦄ tail, f text = refused → f (text ++ tail) = refused

/-- A reader that takes nothing is steady. -/
lemma Reading.Steady.done (a : α) : Steady (done a) where
  keeps _ _ _ _ read := by cases read; rfl
  refused _ _ read := by cases read

/-- Two readers that keep to what they have read do so one behind the other. -/
lemma Reading.Keeps.andThen {f : List UInt8 → Reading α} {g : α → List UInt8 → Reading β}
    (hf : Keeps f) (hg : ∀ a, Keeps (g a)) : Keeps fun text => (f text).andThen g := by
  intro text b rest tail read
  cases first : f text with
  | done a mid =>
    simp only [first, Reading.andThen] at read
    simp only [hf tail first, Reading.andThen]
    exact hg a tail read
  | more => simp [first, Reading.andThen] at read
  | refused => simp [first, Reading.andThen] at read

/-- Two steady readers are steady one behind the other. -/
lemma Reading.Steady.andThen {f : List UInt8 → Reading α} {g : α → List UInt8 → Reading β}
    (hf : Steady f) (hg : ∀ a, Steady (g a)) : Steady fun text => (f text).andThen g where
  keeps := Keeps.andThen hf.keeps fun a => (hg a).keeps
  refused := by
    intro text tail read
    cases first : f text with
    | done a mid =>
      simp only [first, Reading.andThen] at read
      simp only [hf.keeps tail first, Reading.andThen]
      exact (hg a).refused tail read
    | more => simp [first, Reading.andThen] at read
    | refused => simp only [hf.refused tail first, Reading.andThen]

/-- A reader in the place of a steady one that refuses keeps what it has read. -/
lemma Reading.Steady.orElse_keeps {f g : List UInt8 → Reading α} (hf : Steady f) (hg : Keeps g) :
    Keeps fun text => (f text).orElse fun _ => g text := by
  intro text a rest tail read
  cases first : f text with
  | done b mid =>
    simp only [first, Reading.orElse] at read
    cases read
    simp only [hf.keeps tail first, Reading.orElse]
  | more => simp [first, Reading.orElse] at read
  | refused =>
    simp only [first, Reading.orElse] at read
    simp only [hf.refused tail first, Reading.orElse]
    exact hg tail read

/-- Of two steady readers one or the other is a steady reader. -/
lemma Reading.Steady.orElse {f g : List UInt8 → Reading α} (hf : Steady f) (hg : Steady g) :
    Steady fun text => (f text).orElse fun _ => g text where
  keeps := hf.orElse_keeps hg.keeps
  refused := by
    intro text tail read
    cases first : f text with
    | done b mid => simp [first, Reading.orElse] at read
    | more => simp [first, Reading.orElse] at read
    | refused =>
      simp only [first, Reading.orElse] at read
      simp only [hf.refused tail first, Reading.orElse]
      exact hg.refused tail read

namespace Reply

/-- The reader of a fixed word is steady. -/
lemma steady_exactly (word : List UInt8) : Steady (exactly word) := by
  -- The word is compared octet by octet, so each octet that came decides for good.
  induction word with
  | nil =>
    constructor
    · intro text a rest tail read
      cases read
      rfl
    · intro text tail read
      cases read
  | cons b word ih =>
    constructor
    · intro text a rest tail read
      cases text with
      | nil => cases read
      | cons c text =>
        simp only [exactly, List.cons_append] at read ⊢
        split at read
        · rename_i same
          rw [if_pos same]
          exact ih.keeps tail read
        · cases read
    · intro text tail read
      cases text with
      | nil => cases read
      | cons c text =>
        simp only [exactly, List.cons_append] at read ⊢
        split at read
        · rename_i same
          rw [if_pos same]
          exact ih.refused tail read
        · rename_i differ
          rw [if_neg differ]

/-- Read a run of octets, behind which something else has to come, and make something of it. -/
def spanned (p : UInt8 → Bool) (g : List UInt8 → Option α) (text : List UInt8) : Reading α :=
  match text.drop (text.takeWhile p).length with
  | [] => more
  | c :: rest =>
    match g (text.takeWhile p) with
    | some a => done a (c :: rest)
    | none => refused

/-- A run of octets that something follows is not made longer by what comes behind. -/
lemma spanned_append {p : UInt8 → Bool} {g : List UInt8 → Option α} {text : List UInt8} {c rest}
    (follows : text.drop (text.takeWhile p).length = c :: rest) (tail : List UInt8) :
    spanned p g (text ++ tail) =
      match g (text.takeWhile p) with
      | some a => done a (c :: (rest ++ tail))
      | none => refused := by
  have prefix_le := (List.takeWhile_prefix (p := p) (l := text)).length_le
  -- The run ends inside the text, so what comes behind the text cannot lengthen it.
  have shorter : (text.takeWhile p).length ≠ text.length := by
    intro same
    rw [same, List.drop_length] at follows
    cases follows
  have run : (text ++ tail).takeWhile p = text.takeWhile p := by
    rw [List.takeWhile_append, if_neg shorter]
  unfold spanned
  rw [run, List.drop_append_of_le_length prefix_le, follows]
  rfl

/-- The reader of octets of a kind up to another one is steady. -/
lemma steady_spanned (p : UInt8 → Bool) (g : List UInt8 → Option α) : Steady (spanned p g) := by
  constructor
  · intro text a rest tail read
    cases follows : text.drop (text.takeWhile p).length with
    | nil =>
      simp only [spanned, follows] at read
      cases read
    | cons c behind =>
      rw [spanned_append follows]
      simp only [spanned, follows] at read
      cases made : g (text.takeWhile p) with
      | none => rw [made] at read; cases read
      | some b => rw [made] at read; cases read; rfl
  · intro text tail read
    cases follows : text.drop (text.takeWhile p).length with
    | nil =>
      simp only [spanned, follows] at read
      cases read
    | cons c behind =>
      rw [spanned_append follows]
      simp only [spanned, follows] at read
      cases made : g (text.takeWhile p) with
      | none => rfl
      | some b => rw [made] at read; cases read

/-- Digits are read as a run of them. -/
lemma digits_eq_spanned : digits = spanned isDigitOctet Command.natOf? := by
  have same : (fun b : UInt8 => decide (0x30 ≤ b) && decide (b ≤ 0x39)) = isDigitOctet := rfl
  funext text
  unfold digits spanned
  rw [same]
  dsimp only
  cases Command.natOf? (text.takeWhile isDigitOctet) <;>
    cases text.drop (text.takeWhile isDigitOctet).length <;> rfl

/-- A key is read as a run of its octets. -/
lemma key_eq_spanned :
    key = spanned isKeyOctet fun k => if k = [] then none else some k := by
  funext text
  simp only [key, spanned]
  cases text.takeWhile isKeyOctet with
  | nil => cases text <;> rfl
  | cons b k => cases text.drop (b :: k).length <;> rfl

/-- The reader of a number is steady. -/
lemma steady_digits : Steady digits :=
  digits_eq_spanned ▸ steady_spanned _ _

/-- The reader of a key is steady. -/
lemma steady_key : Steady key :=
  key_eq_spanned ▸ steady_spanned _ _

/-- The first octet of a text that holds a line is its first octet when more comes. -/
lemma head?_append_of_cutLine? {text cut} (holds : Command.cutLine? text = some cut)
    (tail : List UInt8) : (text ++ tail).head? = text.head? := by
  cases text with
  | nil => cases holds
  | cons b text => rfl

/-- The first line stays the first line when more comes. -/
lemma cutLine?_append {text line rest} (cut : Command.cutLine? text = some (line, rest))
    (tail : List UInt8) : Command.cutLine? (text ++ tail) = some (line, rest ++ tail) := by
  induction text generalizing line with
  | nil => cases cut
  | cons b text ih =>
    rw [Command.cutLine?] at cut
    rw [List.cons_append, Command.cutLine?]
    split at cut
    · rename_i ends
      cases text with
      | nil => simp at ends
      | cons c text =>
        cases cut
        exact if_pos ends
    · -- The line goes on, so there is an octet behind this one, and it stays the next one.
      rename_i open_end
      obtain ⟨⟨line', rest'⟩, cut', made⟩ := Option.map_eq_some_iff.1 cut
      cases made
      rw [head?_append_of_cutLine? cut', if_neg open_end, ih cut']
      rfl

/-- The reader of the rest of a line is steady. -/
lemma steady_lineRest : Steady lineRest := by
  constructor
  · intro text a rest tail read
    unfold lineRest at read ⊢
    cases cut : Command.cutLine? text with
    | none => rw [cut] at read; cases read
    | some line =>
      rw [cut] at read
      cases read
      rw [cutLine?_append cut]
  · intro text tail read
    unfold lineRest at read
    cases cut : Command.cutLine? text <;> rw [cut] at read <;> cases read

/-- The reader of a block of octets is steady. -/
lemma steady_block (length : Nat) : Steady (block length) := by
  constructor
  · intro text a rest tail read
    unfold block at read ⊢
    split at read
    · cases read
    · rename_i long
      cases read
      have le : length ≤ text.length := by omega
      rw [if_neg (by rw [List.length_append]; omega), List.take_append_of_le_length le,
        List.drop_append_of_le_length le]
  · intro text tail read
    unfold block at read
    split at read <;> cases read

/-- The reader of the end of the line of an item is steady. -/
lemma steady_itemLineEnd : Steady itemLineEnd :=
  (steady_exactly _).orElse <| (steady_exactly _).andThen fun _ =>
    steady_digits.andThen fun _ => steady_exactly _

/-- The reader of an item is steady. -/
lemma steady_item : Steady item :=
  (steady_exactly _).andThen fun _ => steady_key.andThen fun _ =>
    (steady_exactly _).andThen fun _ => steady_digits.andThen fun _ =>
      (steady_exactly _).andThen fun _ => steady_digits.andThen fun _ =>
        steady_itemLineEnd.andThen fun _ => (steady_block _).andThen fun _ =>
          (steady_exactly _).andThen fun _ => .done _

/-- The reader of a fixed reply is steady. -/
lemma steady_fixed (word : String) (r : Reply) : Steady (fixed word r) :=
  (steady_exactly _).andThen fun _ => .done _

/-- The reader of a reply with a message is steady. -/
lemma steady_told (word : String) (r : List UInt8 → Reply) : Steady (told word r) :=
  (steady_exactly _).andThen fun _ => steady_lineRest.andThen fun _ => .done _

/-- The reader of a reply that is a number is steady. -/
lemma steady_numberLine : Steady numberLine :=
  steady_digits.andThen fun _ => (steady_exactly _).andThen fun _ => .done _

/-- The reader of a reply that begins with a word is steady. -/
lemma steady_wordLine : Steady wordLine :=
  (steady_fixed _ _).orElse <| (steady_fixed _ _).orElse <| (steady_fixed _ _).orElse <|
    (steady_fixed _ _).orElse <| (steady_fixed _ _).orElse <| (steady_fixed _ _).orElse <|
      (steady_fixed _ _).orElse <| (steady_told _ _).orElse <| steady_told _ _

/-- Read the line behind the values, which holds none. -/
def lastLine (text : List UInt8) : Reading (List Item) :=
  (exactly (octets "END" ++ lineEnd) text).andThen fun _ rest => done [] rest

/-- The reader of the last line of a reply is steady. -/
lemma steady_lastLine : Steady lastLine :=
  (steady_exactly _).andThen fun _ => .done _

/-- Values are read by reading the last line, or a value and the values behind it. -/
lemma itemsUpToEnd_succ (fuel : Nat) (text : List UInt8) :
    itemsUpToEnd (fuel + 1) text =
      (lastLine text).orElse fun _ =>
        (item text).andThen fun i text =>
          (itemsUpToEnd fuel text).andThen fun is text => done (i :: is) text :=
  rfl

/-- With more fuel, values that have been read stay read when more comes. -/
lemma itemsUpToEnd_append {fuel fuel' text is rest} (le : fuel ≤ fuel') (tail : List UInt8)
    (read : itemsUpToEnd fuel text = done is rest) :
    itemsUpToEnd fuel' (text ++ tail) = done is (rest ++ tail) := by
  induction fuel generalizing fuel' text is rest with
  | zero => cases read
  | succ fuel ih =>
    obtain ⟨more, rfl⟩ : ∃ more, fuel' = more + 1 := ⟨fuel' - 1, by omega⟩
    rw [itemsUpToEnd_succ] at read ⊢
    cases ended : lastLine text with
    | done none_left behind =>
      rw [ended] at read
      rw [steady_lastLine.keeps tail ended]
      cases read
      rfl
    | more => rw [ended] at read; cases read
    | refused =>
      -- It was not the last line, and it is not with more behind it: a value was read.
      rw [ended] at read
      rw [steady_lastLine.refused tail ended]
      simp only [Reading.orElse] at read ⊢
      cases first : item text with
      | done i mid =>
        rw [first] at read
        rw [steady_item.keeps tail first]
        simp only [Reading.andThen] at read ⊢
        cases others : itemsUpToEnd fuel mid with
        | done is' end_ =>
          rw [others] at read
          rw [ih (by omega) others]
          cases read
          rfl
        | more => rw [others] at read; cases read
        | refused => rw [others] at read; cases read
      | more => rw [first] at read; cases read
      | refused => rw [first] at read; cases read

/-- Values that have been read stay read when more comes. -/
lemma keeps_itemLines : Keeps itemLines := by
  intro text r rest tail read
  unfold itemLines at read ⊢
  cases values : itemsUpToEnd (text.length + 1) text with
  | done is mid =>
    rw [values] at read
    rw [itemsUpToEnd_append (by rw [List.length_append]; omega) tail values]
    cases read
    rfl
  | more => rw [values] at read; cases read
  | refused => rw [values] at read; cases read

/-- A reply that has been read stays read when more comes. -/
lemma decode_append {text r rest} (read : decode text = done r rest) (tail : List UInt8) :
    decode (text ++ tail) = done r (rest ++ tail) := by
  have behind : Keeps fun text => (numberLine text).orElse fun _ => itemLines text :=
    steady_numberLine.orElse_keeps keeps_itemLines
  exact steady_wordLine.orElse_keeps behind tail read

/-! ## Reading what was written -/

/-- A fixed word is read from the front of a text. -/
lemma exactly_append (word tail : List UInt8) : exactly word (word ++ tail) = done () tail := by
  induction word with
  | nil => rfl
  | cons b word ih => rw [List.cons_append, exactly, if_pos rfl, ih]

/-- A run of octets is read where another octet stands behind it. -/
lemma spanned_run {p : UInt8 → Bool} {g : List UInt8 → Option α} {run : List UInt8} {a : α}
    {c : UInt8} (all : run.all p = true) (ends : p c = false) (made : g run = some a)
    (tail : List UInt8) : spanned p g (run ++ c :: tail) = done a (c :: tail) := by
  have whole : (run ++ c :: tail).takeWhile p = run := by
    rw [List.takeWhile_append_of_pos (List.all_eq_true.1 all),
      List.takeWhile_cons_of_neg (by rw [ends]; decide), List.append_nil]
  rw [spanned, whole, List.drop_left, made]

/-- A number is read where something other than a digit stands behind it. -/
lemma digits_numeral (n : Nat) {c : UInt8} (ends : isDigitOctet c = false) (tail : List UInt8) :
    digits (numeral n ++ c :: tail) = done n (c :: tail) := by
  rw [digits_eq_spanned]
  exact spanned_run (numeral_all n) ends (Command.natOf?_numeral n) tail

/-- A number is read where the end of the line stands behind it. -/
lemma digits_numeral_lineEnd (n : Nat) (tail : List UInt8) :
    digits (numeral n ++ (lineEnd ++ tail)) = done n (lineEnd ++ tail) :=
  digits_numeral n rfl _

/-- A key is read where a blank stands behind it. -/
lemma key_append {k : List UInt8} (some_octet : k ≠ []) (all : k.all isKeyOctet = true)
    (tail : List UInt8) : key (k ++ 0x20 :: tail) = done k (0x20 :: tail) := by
  rw [key_eq_spanned]
  exact spanned_run all rfl (if_neg some_octet) tail

/-- A text without the end of a line is the rest of the line that it is written on. -/
lemma cutLine?_line {m : List UInt8} (open_end : Command.cutLine? m = none) (tail : List UInt8) :
    Command.cutLine? (m ++ (lineEnd ++ tail)) = some (m, tail) := by
  induction m with
  | nil => rfl
  | cons b m ih =>
    rw [Command.cutLine?] at open_end
    rw [List.cons_append, Command.cutLine?]
    split at open_end
    · cases open_end
    · rename_i inside
      -- A return at the end of the text is not followed by a line feed, but by a return.
      rw [ih (Option.map_eq_none_iff.1 open_end), if_neg]
      · rfl
      · cases m with
        | nil => simp [lineEnd]
        | cons c m => exact inside

/-- A block of octets is read from the front of a text. -/
lemma block_append (payload tail : List UInt8) :
    block payload.length (payload ++ tail) = done payload tail := by
  rw [block, if_neg (by rw [List.length_append]; omega), List.take_left, List.drop_left]

end Reply

/-- The key of the value is a key. -/
def Item.Regular (i : Item) : Prop :=
  i.key ≠ [] ∧ i.key.all Reply.isKeyOctet = true

namespace Reply

/-- What makes a reply one that the protocol can say: its keys are keys, and what it tells of an
error stands on one line. -/
def Regular : Reply → Prop
  | items is => ∀ i ∈ is, i.Regular
  | clientError m => Command.cutLine? m = none
  | serverError m => Command.cutLine? m = none
  | _ => True

/-- A value with what stands behind it, piece by piece. -/
lemma encodeItem_append (i : Item) (tail : List UInt8) :
    encodeItem i ++ tail = octets "VALUE " ++ (i.key ++ 0x20 :: (numeral i.flags ++ 0x20 ::
      (numeral i.payload.length ++ (lineEnd ++ (i.payload ++ (lineEnd ++ tail)))))) := by
  simp only [encodeItem, octets_append, numeral, List.append_assoc]
  rfl

/-- A blank is read from the front of a text. -/
lemma exactly_blank (tail : List UInt8) : exactly (octets " ") (0x20 :: tail) = done () tail :=
  rfl

/-- A value is read where it stands. -/
lemma item_encodeItem {i : Item} (regular : i.Regular) (tail : List UInt8) :
    item (encodeItem i ++ tail) = done i tail := by
  have ends : itemLineEnd (lineEnd ++ (i.payload ++ (lineEnd ++ tail))) =
      done () (i.payload ++ (lineEnd ++ tail)) := by
    rw [itemLineEnd, exactly_append, done_orElse]
  rw [encodeItem_append, item]
  -- The pieces are read one behind the other.
  rw [exactly_append, done_andThen, key_append regular.1 regular.2, done_andThen]
  rw [exactly_blank, done_andThen, digits_numeral _ rfl, done_andThen]
  rw [exactly_blank, done_andThen, digits_numeral_lineEnd, done_andThen]
  rw [ends, done_andThen, block_append, done_andThen, exactly_append, done_andThen]

/-- Values with the last line behind them are read where they stand, if there is fuel for them. -/
lemma itemsUpToEnd_encode {is : List Item} (regular : ∀ i ∈ is, i.Regular) {fuel : Nat}
    (enough : is.length < fuel) (tail : List UInt8) :
    itemsUpToEnd fuel (is.flatMap encodeItem ++ (octets "END" ++ (lineEnd ++ tail))) =
      done is tail := by
  induction is generalizing fuel with
  | nil =>
    obtain ⟨fuel, rfl⟩ : ∃ f, fuel = f + 1 := ⟨fuel - 1, by simp at enough; omega⟩
    rfl
  | cons i is ih =>
    obtain ⟨fuel, rfl⟩ : ∃ f, fuel = f + 1 := ⟨fuel - 1, by simp at enough; omega⟩
    have enough_left : is.length < fuel := by simpa using enough
    have others := ih (fun j mem => regular j (List.mem_cons_of_mem i mem)) enough_left
    have goes_on : ∀ behind, lastLine (encodeItem i ++ behind) = refused := by
      intro behind
      rw [encodeItem_append]
      rfl
    rw [itemsUpToEnd_succ, List.flatMap_cons, List.append_assoc, goes_on, refused_orElse,
      item_encodeItem (regular i List.mem_cons_self), done_andThen, others, done_andThen]

/-- A value is written in one octet at least. -/
lemma length_le_flatMap_encodeItem (is : List Item) :
    is.length ≤ (is.flatMap encodeItem).length := by
  induction is with
  | nil => exact Nat.le_refl _
  | cons i is ih =>
    have some_octet : 0 < (encodeItem i).length := by
      rw [← List.append_nil (encodeItem i), encodeItem_append]
      exact Nat.zero_lt_succ _
    rw [List.flatMap_cons, List.length_append, List.length_cons]
    omega

/-- What a reply that holds values begins with is neither another word nor a number. -/
lemma decode_items (is : List Item) (tail : List UInt8) :
    decode (encode (items is) ++ tail) = itemLines (encode (items is) ++ tail) := by
  cases is with
  | nil => rfl
  | cons i is =>
    simp only [encode, List.flatMap_cons, List.append_assoc, encodeItem_append]
    rfl

/-- A digit begins no word. -/
lemma wordLine_digit {b : UInt8} (digit : isDigitOctet b = true) : wordLine [b] = refused := by
  obtain ⟨d, small, rfl⟩ := digit_of_isDigitOctet digit
  interval_cases d <;> rfl

/-- A number begins no word. -/
lemma wordLine_numeral (n : Nat) (tail : List UInt8) : wordLine (numeral n ++ tail) = refused := by
  cases spelled : numeral n with
  | nil => exact absurd spelled (numeral_ne_nil n)
  | cons b digits =>
    have digit : isDigitOctet b = true := by
      have all := numeral_all n
      rw [spelled, List.all_cons, Bool.and_eq_true] at all
      exact all.1
    exact steady_wordLine.refused (digits ++ tail) (wordLine_digit digit)

/-- What is told of an error is read where it stands. -/
lemma told_append (word : String) (r : List UInt8 → Reply) {m : List UInt8}
    (open_end : Command.cutLine? m = none) (tail : List UInt8) :
    told word r (octets word ++ (m ++ (lineEnd ++ tail))) = done (r m) tail := by
  rw [told, exactly_append, done_andThen, lineRest, cutLine?_line open_end]
  rfl

/-- The line of an error of the client is read as such a line. -/
lemma wordLine_clientError (text : List UInt8) :
    wordLine (octets "CLIENT_ERROR " ++ text) =
      (told "CLIENT_ERROR " clientError (octets "CLIENT_ERROR " ++ text)).orElse fun _ =>
        told "SERVER_ERROR " serverError (octets "CLIENT_ERROR " ++ text) :=
  rfl

/-- The line of an error of the server is read as such a line. -/
lemma wordLine_serverError (text : List UInt8) :
    wordLine (octets "SERVER_ERROR " ++ text) =
      told "SERVER_ERROR " serverError (octets "SERVER_ERROR " ++ text) :=
  rfl

/-- A regular reply is read back as it was written, whatever stands behind it. -/
theorem decode_encode {r : Reply} (regular : r.Regular) (tail : List UInt8) :
    decode (encode r ++ tail) = done r tail := by
  cases r with
  | items is =>
    have enough : is.length < (encode (items is) ++ tail).length + 1 := by
      have := length_le_flatMap_encodeItem is
      simp only [encode, List.length_append]
      omega
    have values := itemsUpToEnd_encode regular enough tail
    rw [decode_items, itemLines]
    simp only [encode, List.append_assoc] at values ⊢
    rw [values, done_andThen]
  | number n =>
    have line : numberLine (numeral n ++ (lineEnd ++ tail)) = done (number n) tail := by
      rw [numberLine, digits_numeral_lineEnd, done_andThen, exactly_append, done_andThen]
    rw [show encode (number n) = numeral n ++ lineEnd from rfl, List.append_assoc, decode,
      wordLine_numeral, refused_orElse, line, done_orElse]
  | clientError m =>
    rw [encode, List.append_assoc, List.append_assoc, decode, wordLine_clientError,
      told_append _ _ regular, done_orElse, done_orElse]
  | serverError m =>
    rw [encode, List.append_assoc, List.append_assoc, decode, wordLine_serverError,
      told_append _ _ regular, done_orElse]
  | _ => rfl

/-- The front of a regular reply is read as that reply, and only if it is the whole of it, or as
nothing. -/
theorem decode_of_append_eq_encode {r r' : Reply} (regular : r.Regular)
    {front behind rest : List UInt8} (whole : front ++ behind = encode r)
    (read : decode front = done r' rest) : r' = r ∧ rest = [] ∧ behind = [] := by
  have longer := decode_append read behind
  have back := decode_encode regular []
  rw [List.append_nil, ← whole, longer] at back
  injection back with same none_left
  exact ⟨same, List.append_eq_nil_iff.1 none_left⟩

end Reply
end MetadataGateway.Cache
