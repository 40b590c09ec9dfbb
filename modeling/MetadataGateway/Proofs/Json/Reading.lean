import MetadataGateway.Proofs.Json.Order
import MetadataGateway.Proofs.Json.Scalars

/-!
# Values read from their tokens

A value whose numbers are integers is read back from its tokens, whatever blanks stand between them
(`reads_value`), and so is what a text holds (`ofText_of_spaced`), if the value fits into what the
reader keeps (`Fits`) and none of its objects would be taken for one that quotes a value
(`Unquoted`). What is read has the members of its objects in the order of their names, however they
stood. Arrays and objects are read item by item and member by member (`reads_items`,
`reads_members`), each with one level less than there is.
-/

namespace MetadataGateway.Json

open Cursor

variable {text : List Char} {behind : List (List Char)} {c : Cursor} {v : Json} {vs : List Json}
  {ms : List (String × Json)} {levels : Nat} {whole : List Char → Except Error Json}
  {one : Cursor → Except Error (Json × Cursor)}

/-! ## Values that the reader keeps -/

/-- A value whose numbers are integers that 64 bits hold, whose objects have members of different
names, and whose arrays and objects stand at most so many levels deep. -/
inductive Fits : Nat → Json → Prop where
  | null {levels : Nat} :
    Fits levels .null
  | boolean {levels : Nat} {b : Bool} :
    Fits levels (.boolean b)
  | integer {levels : Nat} {n : Int} :
    -(leastSize : Int) ≤ n →
    n ≤ greatest →
    Fits levels (.integer n)
  | string {levels : Nat} {s : String} :
    Fits levels (.string s)
  | array {levels : Nat} {vs : List Json} :
    (∀ v ∈ vs, Fits levels v) →
    Fits (levels + 1) (.array vs)
  | object {levels : Nat} {ms : List (String × Json)} :
    (ms.map Prod.fst).Nodup →
    (∀ m ∈ ms, Fits levels m.2) →
    Fits (levels + 1) (.object ms)

/-- No object of a value begins with the member that quotes one. -/
inductive Unquoted : Json → Prop where
  | null :
    Unquoted .null
  | boolean {b : Bool} :
    Unquoted (.boolean b)
  | integer {n : Int} :
    Unquoted (.integer n)
  | float {x : Float} :
    Unquoted (.float x)
  | string {s : String} :
    Unquoted (.string s)
  | array {vs : List Json} :
    (∀ v ∈ vs, Unquoted v) →
    Unquoted (.array vs)
  | object {ms : List (String × Json)} :
    (∀ m ∈ ms.head?, m.1 ≠ quotedName) →
    (∀ m ∈ ms, Unquoted m.2) →
    Unquoted (.object ms)

/-- The first token of a value is no blank, and ends no array. -/
lemma tokens_cons (fits : Fits levels v) :
    ∃ x token others, v.tokens = (x :: token) :: others ∧ isBlank x = false ∧ x ≠ ']' := by
  cases fits with
  | null => exact ⟨'n', _, _, rfl, by decide, by decide⟩
  | @boolean _ b => cases b <;> exact ⟨_, _, _, rfl, by decide, by decide⟩
  | @integer _ n =>
    obtain ⟨x, digits, spelled, solid, plain⟩ := renderInteger_cons n
    exact ⟨x, digits, [], by rw [tokens, spelled], solid, fun same => plain (by simp [same])⟩
  | string => exact ⟨'\x22', _, _, rfl, by decide, by decide⟩
  | @array _ vs => cases vs <;> exact ⟨'[', _, _, rfl, by decide, by decide⟩
  | @object _ ms => cases ms <;> exact ⟨'\x7B', _, _, rfl, by decide, by decide⟩

/-- Behind the blanks in front of a value stands no end of an array. -/
lemma Fits.skipped (fits : Fits levels v) (spaced : Spaced (v.tokens ++ behind) c.rest) :
    Spaced (v.tokens ++ behind) c.skipBlanks.rest ∧
      ∃ x r, c.skipBlanks.rest = x :: r ∧ x ≠ ']' := by
  obtain ⟨x, token, others, first, solid, opens⟩ := tokens_cons fits
  rw [first, List.cons_append] at spaced ⊢
  obtain ⟨text, here, -⟩ := spaced.skipBlanks solid
  exact ⟨spaced.skipped solid, x, _, here, opens⟩

/-! ## Arrays -/

/-- An item is read, and then those behind it. -/
lemma items_more (reads : Reads one v.tokens v.sorted) (ends : Ends behind)
    (spaced : Spaced (v.tokens ++ behind) c.rest) :
    ∃ c', Spaced behind c'.rest ∧ ∀ fuel, items.more one fuel c =
      (items one fuel false c').map fun (vs, c) => (v.sorted :: vs, c) := by
  obtain ⟨c', read, others⟩ := reads c behind ends spaced
  refine ⟨c', others, fun fuel => ?_⟩
  rw [items.more, read]
  rfl

/-- What follows an item ends it. -/
lemma ends_itemTokens (vs : List Json) (behind : List (List Char)) :
    Ends (itemTokens vs ++ [']'] :: behind) := by
  cases vs <;> (rintro _ ⟨⟩; simp)

/-- The items behind the first are read from their tokens, up to the end of the array. -/
lemma reads_itemTokens (fits : ∀ v ∈ vs, Fits levels v)
    (reads : ∀ v ∈ vs, Reads one v.tokens v.sorted) {fuel : Nat} (enough : vs.length < fuel)
    (spaced : Spaced (itemTokens vs ++ [']'] :: behind) c.rest) :
    ∃ c', items one fuel false c = .ok (sortedItems vs, c') ∧ Spaced behind c'.rest := by
  induction vs generalizing c fuel with
  | nil =>
    obtain ⟨fuel, rfl⟩ := Nat.exists_eq_add_one_of_ne_zero (Nat.ne_zero_of_lt enough)
    obtain ⟨_, bracket, others⟩ := spaced.mark (by decide)
    exact ⟨c.skipBlanks.next, by simp [items, bracket, sortedItems], others⟩
  | cons v vs ih =>
    obtain ⟨fuel, rfl⟩ := Nat.exists_eq_add_one_of_ne_zero (Nat.ne_zero_of_lt enough)
    obtain ⟨fits, fits_others⟩ := List.forall_mem_cons.1 fits
    obtain ⟨reads, reads_others⟩ := List.forall_mem_cons.1 reads
    rw [itemTokens, List.cons_append, List.cons_append, List.append_assoc] at spaced
    obtain ⟨_, comma, others⟩ := spaced.mark (by decide)
    obtain ⟨skipped, x, r, here, opens⟩ := fits.skipped others
    obtain ⟨c', behind_item, more⟩ := items_more reads (ends_itemTokens vs behind) skipped
    obtain ⟨c'', read, rest⟩ :=
      ih fits_others reads_others (Nat.lt_of_succ_lt_succ enough) behind_item
    refine ⟨c'', ?_, rest⟩
    rw [items]
    simp [comma, here, opens, more, read, sortedItems, Except.map]

/-- All items are read behind the opening bracket. -/
lemma reads_items (fits : ∀ v ∈ vs, Fits levels v)
    (reads : ∀ v ∈ vs, Reads one v.tokens v.sorted) {fuel : Nat} (enough : vs.length < fuel)
    (spaced : Spaced ((tokens (.array vs)).tail ++ behind) c.rest) :
    ∃ c', items one fuel true c = .ok (sortedItems vs, c') ∧ Spaced behind c'.rest := by
  obtain ⟨fuel, rfl⟩ := Nat.exists_eq_add_one_of_ne_zero (Nat.ne_zero_of_lt enough)
  cases vs with
  | nil =>
    obtain ⟨_, bracket, others⟩ := Spaced.mark (x := ']') spaced (by decide)
    exact ⟨c.skipBlanks.next, by simp [items, bracket, sortedItems], others⟩
  | cons v vs =>
    obtain ⟨fits, fits_others⟩ := List.forall_mem_cons.1 fits
    obtain ⟨reads, reads_others⟩ := List.forall_mem_cons.1 reads
    have spaced' : Spaced (v.tokens ++ (itemTokens vs ++ [']'] :: behind)) c.rest := by
      simpa [tokens] using spaced
    obtain ⟨skipped, x, r, here, opens⟩ := fits.skipped spaced'
    obtain ⟨c', behind_item, more⟩ := items_more reads (ends_itemTokens vs behind) skipped
    obtain ⟨c'', read, rest⟩ :=
      reads_itemTokens fits_others reads_others (Nat.lt_of_succ_lt_succ enough) behind_item
    refine ⟨c'', ?_, rest⟩
    rw [items]
    simp [here, opens, more, read, sortedItems, Except.map]

/-- Items have at least as many characters as there are items. -/
lemma length_le_itemTokens (vs : List Json) : vs.length ≤ (itemTokens vs).flatten.length := by
  induction vs with
  | nil => exact Nat.zero_le _
  | cons v vs ih =>
    rw [itemTokens, List.cons_append, List.flatten_cons, List.flatten_append]
    simp only [List.length_cons, List.length_append, List.length_nil]
    omega

/-- The text of an array has at least as many characters as the array has items. -/
lemma length_le_tokens_array (vs : List Json) :
    vs.length ≤ (tokens (.array vs)).flatten.length := by
  cases vs with
  | nil => exact Nat.zero_le _
  | cons v vs =>
    have others := length_le_itemTokens vs
    simp only [tokens, List.flatten_append, List.flatten_cons, List.cons_append, List.length_cons,
      List.length_append]
    omega

/-- An array is read back with its items. -/
lemma reads_array (fits : ∀ v ∈ vs, Fits levels v)
    (reads : ∀ v ∈ vs, Reads (value whole (levels + 1)) v.tokens v.sorted) :
    Reads (value whole (levels + 2)) (tokens (.array vs)) (sorted (.array vs)) := by
  intro c behind ends spaced
  have opened : tokens (.array vs) = ['['] :: (tokens (.array vs)).tail := by
    cases vs <;> simp [tokens]
  rw [opened, List.cons_append] at spaced
  obtain ⟨r, bracket, others⟩ := spaced.mark (by decide)
  have enough := spaced.length_lt (by decide) (opened ▸ length_le_tokens_array vs)
  obtain ⟨c', read, rest⟩ := reads_items fits reads enough others
  refine ⟨c', ?_, rest⟩
  rw [value]
  dsimp only
  -- The length counts only as fuel, so it must not be computed from the text.
  generalize c.skipBlanks.rest.length + 1 = fuel at read
  simp [bracket, read, sorted, bind, Except.bind]

/-! ## Objects -/

/-- A name is read from its token, behind the blanks in front of it. -/
lemma reads_name {name : String} (spaced : Spaced (renderString name :: behind) c.rest) :
    ∃ r c', c.skipBlanks.rest = '\x22' :: r ∧ stringText c.skipBlanks.next = .ok (name, c') ∧
      Spaced behind c'.rest := by
  obtain ⟨text, here, others⟩ := Spaced.skipBlanks (x := '\x22') spaced (by decide)
  obtain ⟨c', read, rest⟩ := takes_stringText name c.skipBlanks.next text (rest_next here)
  exact ⟨_, c', here, read, rest.symm ▸ others⟩

/-- A member is read and put to those before it, and then those behind it. -/
lemma members_more {name : String} (reads : Reads one v.tokens v.sorted) (ends : Ends behind)
    (spaced : Spaced (renderString name :: [':'] :: (v.tokens ++ behind)) c.rest) :
    ∃ r c', c.skipBlanks.rest = '\x22' :: r ∧ Spaced behind c'.rest ∧
      ∀ fuel found, members.more one fuel found c.skipBlanks =
        members one fuel false (putMember name v.sorted found) c' := by
  obtain ⟨r, c₁, quote, read_name, others⟩ := reads_name spaced
  obtain ⟨_, mark, others⟩ := others.mark (by decide)
  obtain ⟨c₂, read, rest⟩ := reads _ behind ends others
  refine ⟨r, c₂, quote, rest, fun fuel found => ?_⟩
  have read_colon : colon c₁ = .ok c₁.skipBlanks.next := by simp [colon, mark]
  simp only [members.more, read_name, read_colon, read, bind, Except.bind]

/-- What follows a member ends its value. -/
lemma ends_memberTokens (ms : List (String × Json)) (behind : List (List Char)) :
    Ends (memberTokens ms ++ ['\x7D'] :: behind) := by
  cases ms <;> (rintro _ ⟨⟩; simp)

/-- The members behind the first are read from their tokens and put to those before them, up to the
end of the object. -/
lemma reads_memberTokens (reads : ∀ m ∈ ms, Reads one m.2.tokens m.2.sorted)
    {found : List (String × Json)} {fuel : Nat} (enough : ms.length < fuel)
    (spaced : Spaced (memberTokens ms ++ ['\x7D'] :: behind) c.rest) :
    ∃ c', members one fuel false found c = .ok (gathered (sortedMembers ms) found, c') ∧
      Spaced behind c'.rest := by
  induction ms generalizing c fuel found with
  | nil =>
    obtain ⟨fuel, rfl⟩ := Nat.exists_eq_add_one_of_ne_zero (Nat.ne_zero_of_lt enough)
    obtain ⟨_, brace, others⟩ := spaced.mark (by decide)
    exact ⟨c.skipBlanks.next, by simp [members, brace, sortedMembers, gathered], others⟩
  | cons m ms ih =>
    obtain ⟨fuel, rfl⟩ := Nat.exists_eq_add_one_of_ne_zero (Nat.ne_zero_of_lt enough)
    obtain ⟨reads, reads_others⟩ := List.forall_mem_cons.1 reads
    have spaced' : Spaced ([','] :: renderString m.1 :: [':'] ::
        (m.2.tokens ++ (memberTokens ms ++ ['\x7D'] :: behind))) c.rest := by
      simpa [memberTokens] using spaced
    obtain ⟨_, comma, others⟩ := spaced'.mark (by decide)
    obtain ⟨r, c', quote, behind_member, more⟩ :=
      members_more reads (ends_memberTokens ms behind) others
    obtain ⟨c'', read, rest⟩ :=
      ih reads_others (Nat.lt_of_succ_lt_succ enough) behind_member
    refine ⟨c'', ?_, rest⟩
    rw [members]
    simpa [comma, quote, more, sortedMembers, gathered] using read

/-- All members are read behind the opening brace, and put together. -/
lemma reads_members (reads : ∀ m ∈ ms, Reads one m.2.tokens m.2.sorted) {fuel : Nat}
    (enough : ms.length < fuel)
    (spaced : Spaced ((tokens (.object ms)).tail ++ behind) c.rest) :
    ∃ c', members one fuel true [] c = .ok (gathered (sortedMembers ms) [], c') ∧
      Spaced behind c'.rest := by
  obtain ⟨fuel, rfl⟩ := Nat.exists_eq_add_one_of_ne_zero (Nat.ne_zero_of_lt enough)
  cases ms with
  | nil =>
    obtain ⟨_, brace, others⟩ := Spaced.mark (x := '\x7D') spaced (by decide)
    exact ⟨c.skipBlanks.next, by simp [members, brace, sortedMembers, gathered], others⟩
  | cons m ms =>
    obtain ⟨reads, reads_others⟩ := List.forall_mem_cons.1 reads
    have spaced' : Spaced (renderString m.1 :: [':'] ::
        (m.2.tokens ++ (memberTokens ms ++ ['\x7D'] :: behind))) c.rest := by
      simpa [tokens] using spaced
    obtain ⟨r, c', quote, behind_member, more⟩ :=
      members_more reads (ends_memberTokens ms behind) spaced'
    obtain ⟨c'', read, rest⟩ :=
      reads_memberTokens reads_others (Nat.lt_of_succ_lt_succ enough) behind_member
    refine ⟨c'', ?_, rest⟩
    rw [members]
    simpa [quote, more, sortedMembers, gathered] using read

/-- Members have at least as many characters as there are members. -/
lemma length_le_memberTokens (ms : List (String × Json)) :
    ms.length ≤ (memberTokens ms).flatten.length := by
  induction ms with
  | nil => exact Nat.zero_le _
  | cons m ms ih =>
    rw [memberTokens, List.cons_append, List.flatten_cons]
    simp only [List.length_cons, List.length_append, List.length_nil, List.cons_append,
      List.flatten_cons, List.flatten_append]
    omega

/-- The text of an object has at least as many characters as the object has members. -/
lemma length_le_tokens_object (ms : List (String × Json)) :
    ms.length ≤ (tokens (.object ms)).flatten.length := by
  cases ms with
  | nil => exact Nat.zero_le _
  | cons m ms =>
    have others := length_le_memberTokens ms
    simp only [tokens, List.flatten_append, List.flatten_cons, List.cons_append, List.length_cons,
      List.length_append]
    omega

/-- No value is quoted where the first member has another name. -/
lemma quoted?_of_spaced (plain : ∀ m ∈ ms.head?, m.1 ≠ quotedName)
    (spaced : Spaced ((tokens (.object ms)).tail ++ behind) c.rest) :
    quoted? whole c = .ok none := by
  cases ms with
  | nil =>
    obtain ⟨_, brace, -⟩ := Spaced.mark (x := '\x7D') spaced (by decide)
    simp [quoted?, brace]
  | cons m ms =>
    obtain ⟨r, c', quote, read, -⟩ := reads_name spaced
    simp [quoted?, quote, read, plain m rfl, bind, Except.bind]

/-- An object is read back with its members. -/
lemma reads_object (reads : ∀ m ∈ ms, Reads (value whole (levels + 1)) m.2.tokens m.2.sorted)
    (distinct : (ms.map Prod.fst).Nodup) (plain : ∀ m ∈ ms.head?, m.1 ≠ quotedName) :
    Reads (value whole (levels + 2)) (tokens (.object ms)) (sorted (.object ms)) := by
  intro c behind ends spaced
  have opened : tokens (.object ms) = ['\x7B'] :: (tokens (.object ms)).tail := by
    cases ms <;> simp [tokens]
  rw [opened, List.cons_append] at spaced
  obtain ⟨r, brace, others⟩ := spaced.mark (by decide)
  have enough := spaced.length_lt (by decide) (opened ▸ length_le_tokens_object ms)
  obtain ⟨c', read, rest⟩ := reads_members reads enough others
  have unquoted : quoted? whole c.skipBlanks.next = .ok none := quoted?_of_spaced plain others
  refine ⟨c', ?_, rest⟩
  rw [value, sorted_object distinct]
  dsimp only
  generalize c.skipBlanks.rest.length + 1 = fuel at read
  simp [brace, unquoted, read, bind, Except.bind]

/-! ## Whole texts -/

/-- A value is read back from its tokens, as deep as there are levels, with the members of its
objects in order. -/
theorem reads_value (fits : Fits levels v) (unquoted : Unquoted v) :
    Reads (value whole (levels + 1)) v.tokens v.sorted := by
  induction fits with
  | null => exact reads_null
  | boolean => exact reads_boolean _
  | integer low high => exact reads_integer low high
  | string => exact reads_string _
  | array fits ih =>
    cases unquoted with
    | array unquoted => exact reads_array fits fun v mem => ih v mem (unquoted v mem)
  | object distinct _ ih =>
    cases unquoted with
    | object plain unquoted =>
      exact reads_object (fun m mem => ih m mem (unquoted m mem)) distinct plain

/-- A text holds what is read from its tokens. -/
lemma ofTextWithin_of_reads {tokens : List (List Char)} {quotations : Nat}
    (reads : Reads (value (ofTextWithin quotations) depthLimit) tokens v)
    (spaced : Spaced tokens text) : ofTextWithin (quotations + 1) text = .ok v := by
  have spaced' : Spaced (tokens ++ []) (Cursor.start text).rest := by
    rwa [List.append_nil]
  obtain ⟨c, read, rest⟩ := reads (.start text) [] nofun spaced'
  have ended : c.skipBlanks.rest = [] := rest.skipBlanks_end
  rw [ofTextWithin, read]
  simp [ended, bind, Except.bind]

/-- A text with the tokens of a value holds that value, with the members of its objects in order. -/
theorem ofText_of_spaced (fits : Fits 127 v) (unquoted : Unquoted v)
    (spaced : Spaced v.tokens text) : ofText text = .ok v.sorted :=
  ofTextWithin_of_reads (reads_value fits unquoted) spaced

/-- An object whose only member is a string, whatever its characters, is what its text holds. -/
theorem ofText_member {name : String} (plain : name ≠ quotedName) (s : String) :
    ofText (render (.object [(name, .string s)])) = .ok (.object [(name, .string s)]) := by
  have fits : Fits 127 (.object [(name, .string s)]) :=
    .object (by simp) (List.forall_mem_singleton.2 .string)
  have unquoted : Unquoted (.object [(name, .string s)]) :=
    .object (by rintro _ ⟨⟩; exact plain) (List.forall_mem_singleton.2 .string)
  have single : sorted (.object [(name, .string s)]) = .object [(name, .string s)] :=
    sorted_object (by simp)
  rw [← flatten_tokens, ofText_of_spaced fits unquoted (Spaced.flatten _), single]

/-! ## Quoted values -/

variable (whole) in
/-- Where the first member of an object quotes a text, the text is found and what stands behind it.
-/
lemma reads_quoting {s : String}
    (spaced : Spaced (['\x7B'] :: renderString quotedName :: [':'] :: renderString s :: behind)
      c.rest) :
    ∃ r c', c.skipBlanks.rest = '\x7B' :: r ∧ Spaced behind c'.rest ∧
      quoted? whole c.skipBlanks.next = (do
        let v ← whole s.toList
        let c ← quotationEnd c'
        .ok (some (v, c))) := by
  obtain ⟨r, opening, others⟩ := spaced.mark (by decide)
  obtain ⟨_, c₁, quote, read_name, others⟩ := reads_name others
  obtain ⟨_, mark, others⟩ := others.mark (by decide)
  obtain ⟨_, c₂, string_quote, read_string, others⟩ := reads_name others
  have read_colon : colon c₁ = .ok c₁.skipBlanks.next := by simp [colon, mark]
  have read_quotation : quotation c₁.skipBlanks.next = .ok (s, c₂) := by
    simp [quotation, string_quote, read_string]
  refine ⟨r, c₂, opening, others, ?_⟩
  simp [quoted?, quote, read_name, read_colon, read_quotation, bind, Except.bind]

/-- An object whose only member quotes a text is read as the value of that text. -/
lemma reads_quotation {s : String} (held : whole s.toList = .ok v) :
    Reads (value whole (levels + 2)) (tokens (.object [(quotedName, .string s)])) v := by
  intro c behind ends spaced
  obtain ⟨_, c', opening, others, found⟩ := reads_quoting whole spaced
  obtain ⟨_, closing, others⟩ := others.mark (x := '\x7D') (by decide)
  have read_end : quotationEnd c' = .ok c'.skipBlanks.next := by simp [quotationEnd, closing]
  refine ⟨c'.skipBlanks.next, ?_, others⟩
  rw [value]
  simp [opening, found, held, read_end, bind, Except.bind]

/-- The text of an object that quotes the text of a value holds the value, and not the object. -/
theorem ofText_quoted (fits : Fits 127 v) (unquoted : Unquoted v) :
    ofText (render (.object [(quotedName, .string v.text)])) = .ok v.sorted := by
  have held (quotations : Nat) : ofTextWithin (quotations + 1) v.text.toList = .ok v.sorted := by
    rw [text, String.toList_ofList, ← flatten_tokens]
    exact ofTextWithin_of_reads (reads_value fits unquoted) (Spaced.flatten _)
  obtain ⟨quotations, length⟩ : ∃ quotations,
      (render (.object [(quotedName, .string v.text)])).length = quotations + 1 :=
    ⟨_, rfl⟩
  rw [ofText, length, ← flatten_tokens]
  exact ofTextWithin_of_reads (reads_quotation (held quotations)) (Spaced.flatten _)

/-- An object that quotes a text in its first member and has others is not read. -/
lemma refuses_quotation {s : String}
    (spaced : Spaced (['\x7B'] :: renderString quotedName :: [':'] :: renderString s :: [','] ::
      behind) c.rest) {found : Json × Cursor} : value whole (levels + 2) c ≠ .ok found := by
  intro read
  obtain ⟨_, c', opening, others, quotes⟩ := reads_quoting whole spaced
  obtain ⟨_, comma, -⟩ := others.mark (by decide)
  have read_end : quotationEnd c' = c'.skipBlanks.failAhead .trailingComma := by
    simp [quotationEnd, comma]
  rw [value] at read
  cases held : whole s.toList <;>
    simp [opening, quotes, held, read_end, Cursor.failAhead, bind, Except.bind] at read

/-- The text of an object that quotes a text in its first member and has others holds nothing. -/
theorem ofText_quoted_cons {s : String} {m : String × Json} :
    ofText (render (.object ((quotedName, .string s) :: m :: ms))) ≠ .ok v := by
  intro held
  rw [ofText, ofTextWithin, ← flatten_tokens] at held
  obtain ⟨_, read, -⟩ := bind_eq_ok_iff.1 held
  exact refuses_quotation (Spaced.flatten _) read

end MetadataGateway.Json
