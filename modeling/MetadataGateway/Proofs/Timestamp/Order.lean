import Mathlib.Data.List.Forall2
import MetadataGateway.Proofs.Timestamp.Reading

/-!
# The order of the patterns

Two patterns that read one text read the same in it, so it does not matter in which order they are
tried (`readInOrder?_of_perm`). Patterns are compared item by item from the front. As long as their
items are alike (`Item.Alike`), they are at the same place with the same knowledge. Where they part,
one of them goes on with a character that the other cannot go on with (`Agree.of_begins`). The one
place where neither holds is the white space before an hour, of which the strict pattern takes one
character and others take as much as there is (`agree_timeMark`).
-/

namespace MetadataGateway.Timestamp

open Text Number

variable {items items' front front' : List Item}

/-! ## Agreement -/

/-- Of a text that both read, both items read the same. -/
def Item.Alike (i j : Item) : Prop :=
  ∀ ⦃d text r r'⦄, i.read? d text = some r → j.read? d text = some r' → r = r'

/-- Of a text that the items of both lists read to its end, both read the same. -/
def Agree (items items' : List Item) : Prop :=
  ∀ ⦃d text d₁ d₂⦄, readItems? items d text = some d₁ → readItems? items' d text = some d₂ → d₁ = d₂

/-- A list of items reads what its first item and the others read in turn. -/
lemma readItems?_cons_eq_some {item : Item} {d d' : Draft} {text : List Char} :
    readItems? (item :: items) d text = some d' ↔
      ∃ d₁ rest, item.read? d text = some (d₁, rest) ∧ readItems? items d₁ rest = some d' := by
  constructor
  · intro read
    obtain ⟨⟨d₁, rest⟩, first, others⟩ := Option.bind_eq_some_iff.1 read
    exact ⟨d₁, rest, first, others⟩
  · rintro ⟨d₁, rest, first, others⟩
    rw [readItems?_cons first, others]

/-- An item is like itself. -/
lemma Item.alike_self (i : Item) : i.Alike i :=
  fun _ _ _ _ read read' => Option.some.inj (read.symm.trans read')

/-- An item is like every item that reads whatever it reads. -/
lemma Item.alike_of_imp {i j : Item}
    (reads : ∀ {d text r}, i.read? d text = some r → j.read? d text = some r) : i.Alike j :=
  fun _ _ _ _ read read' => Option.some.inj ((reads read).symm.trans read')

/-- Items agree with themselves. -/
lemma Agree.self (items : List Item) : Agree items items :=
  fun _ _ _ _ read read' => Option.some.inj (read.symm.trans read')

/-- Agreement goes both ways. -/
lemma Agree.symm (agree : Agree items items') : Agree items' items :=
  fun _ _ _ _ read read' => (agree read' read).symm

/-- Items agree that go on with items that agree behind first ones that are alike. -/
lemma Agree.cons {i j : Item} (alike : i.Alike j) (agree : Agree items items') :
    Agree (i :: items) (j :: items') := by
  intro d text d₁ d₂ read read'
  obtain ⟨d, rest, first, others⟩ := readItems?_cons_eq_some.1 read
  obtain ⟨d', rest', first', others'⟩ := readItems?_cons_eq_some.1 read'
  cases alike first first'
  exact agree others others'

/-- Items agree that go on with items that agree behind ones that are alike in pairs. -/
lemma Agree.append (alike : List.Forall₂ Item.Alike front front') (agree : Agree items items') :
    Agree (front ++ items) (front' ++ items') := by
  induction alike with
  | nil => exact agree
  | cons first _ ih => exact ih.cons first

/-- What stands in front of both makes no difference. -/
lemma Agree.append_same (front : List Item) (agree : Agree items items') :
    Agree (front ++ items) (front ++ items') :=
  agree.append (List.forall₂_same.2 fun i _ => i.alike_self)

/-! ## First characters -/

/-- A text that the items read begins so; no character is that of the empty text. -/
def Begins (items : List Item) (first : Option Char → Prop) : Prop :=
  ∀ ⦃d text d'⦄, readItems? items d text = some d' → first text.head?

/-- Items that read no text with the same beginning agree. -/
lemma Agree.of_begins {first first' : Option Char → Prop} (begins : Begins items first)
    (begins' : Begins items' first') (apart : ∀ c, first c → ¬ first' c) : Agree items items' :=
  fun _ _ _ _ read read' => absurd (begins' read') (apart _ (begins read))

/-- No items read only the empty text. -/
lemma begins_nil : Begins [] (· = none) := by
  intro d text d' read
  rw [readItems?] at read
  split_ifs at read with nothing
  rw [nothing]
  rfl

/-- A mark begins with itself. -/
lemma begins_mark (c : Char) (items : List Item) : Begins (.mark c :: items) (· = some c) := by
  intro d text d' read
  obtain ⟨d₁, rest, first, -⟩ := readItems?_cons_eq_some.1 read
  rw [Item.read?] at first
  split_ifs at first with here
  exact here

/-- The mark of a time begins with some character. -/
lemma begins_timeMark (items : List Item) : Begins (.timeMark :: items) (· ≠ none) := by
  intro d text d' read nothing
  rw [List.head?_eq_none_iff.1 nothing] at read
  cases read

/-- The first character is white space or what stands behind white space. -/
lemma head?_of_trimStart {text : List Char} {c : Char} (first : (trimStart text).head? = some c) :
    ∃ b, text.head? = some b ∧ (isBlank b = true ∨ b = c) := by
  cases text with
  | nil => cases first
  | cons b text =>
    refine ⟨b, rfl, ?_⟩
    by_cases blank : isBlank b = true
    · exact .inl blank
    · rw [trimStart_of_not_blank (Bool.eq_false_iff.2 blank)] at first
      exact .inr (Option.some.inj first)

/-! ## Numbers -/

/-- A number begins with a digit. -/
lemma takeNumber?_begins {least most : Nat} {text rest : List Char} {n : Nat} (pos : 0 < least)
    (read : takeNumber? least most text = some (n, rest)) :
    ∃ c behind, text = c :: behind ∧ c.isDigit = true := by
  rw [takeNumber?] at read
  split_ifs at read with enough
  cases text with
  | nil =>
    rw [List.take_nil, List.takeWhile_nil, List.length_nil] at enough
    omega
  | cons c behind =>
    refine ⟨c, behind, rfl, ?_⟩
    by_contra other
    cases most with
    | zero =>
      rw [List.take_zero, List.takeWhile_nil, List.length_nil] at enough
      omega
    | succ most =>
      rw [List.take_succ_cons, List.takeWhile_cons_of_neg other, List.length_nil] at enough
      omega

/-- Fewer digits that have to be there make no difference to a number that is. -/
lemma takeNumber?_of_le {least least' most : Nat} {text rest : List Char} {n : Nat}
    (le : least' ≤ least) (read : takeNumber? least most text = some (n, rest)) :
    takeNumber? least' most text = some (n, rest) := by
  rw [takeNumber?] at read ⊢
  split_ifs at read with enough
  rw [if_pos (Nat.le_trans le enough), ← read]

/-- A number in exactly its usual digits is read as well where it may have fewer. -/
lemma takeLoose?_of_exact {f : Field} {text rest : List Char} {n : Nat}
    (read : takeNumber? f.width f.width text = some (n, rest)) :
    takeLoose? f text = some ((n : Int), rest) := by
  obtain ⟨c, behind, rfl, digit⟩ := takeNumber?_begins f.one_le_width read
  rw [takeLoose?_of_isDigit digit, takeNumber?_of_le f.one_le_width read]
  rfl

/-- A loose number reads what an exact one reads. -/
lemma read?_loose_of_exact {f : Field} {d : Draft} {text : List Char} {r : Draft × List Char}
    (read : (Item.exact f).read? d text = some r) : (Item.loose f).read? d text = some r := by
  obtain ⟨⟨n, rest⟩, number, rfl⟩ := Option.map_eq_some_iff.1 read
  rw [Item.read?, takeLoose?_of_exact number]
  rfl

/-- Exact and loose numbers are alike. -/
lemma alike_number (f : Field) : (Item.exact f).Alike (.loose f) :=
  Item.alike_of_imp read?_loose_of_exact

/-- What is read as an hour is digits, perhaps behind white space. -/
lemma takeLoose?_hour_begins {text rest : List Char} {n : Int}
    (read : takeLoose? .hour text = some (n, rest)) :
    ∃ c, (trimStart text).head? = some c ∧ c.isDigit = true := by
  obtain ⟨⟨m, behind⟩, number, -⟩ := Option.map_eq_some_iff.1 read
  obtain ⟨c, behind, here, digit⟩ := takeNumber?_begins Nat.one_pos number
  exact ⟨c, by rw [here]; rfl, digit⟩

/-! ## Distances from UTC -/

/-- A sign is a plus, a hyphen or a minus. -/
lemma takeSign?_begins {text rest : List Char} {sign : Int}
    (read : takeSign? text = some (sign, rest)) :
    ∃ c, text = c :: rest ∧ (c = '+' ∨ c = '-' ∨ c = '\u2212') := by
  unfold takeSign? at read
  split at read <;> cases read
  · exact ⟨_, rfl, .inl rfl⟩
  · exact ⟨_, rfl, .inr (.inl rfl)⟩
  · exact ⟨_, rfl, .inr (.inr rfl)⟩

/-- What is read as a distance from UTC begins with white space, a letter or a sign. -/
lemma takeLooseZone?_begins {text rest : List Char} {n : Int}
    (read : takeLooseZone? text = some (n, rest)) :
    ∃ c, text.head? = some c ∧ c ≠ ':' := by
  have begins : ∃ c, (trimStart text).head? = some c ∧ c ≠ ':' := by
    unfold takeLooseZone? at read
    split at read
    · rename_i here
      exact ⟨'Z', by rw [here]; rfl, by decide⟩
    · rename_i here
      exact ⟨'z', by rw [here]; rfl, by decide⟩
    · obtain ⟨⟨sign, r⟩, signed, -⟩ := Option.bind_eq_some_iff.1 read
      obtain ⟨c, here, which⟩ := takeSign?_begins signed
      refine ⟨c, by rw [here]; rfl, ?_⟩
      rcases which with rfl | rfl | rfl <;> decide
  obtain ⟨c, first, other⟩ := begins
  obtain ⟨b, here, blank | rfl⟩ := head?_of_trimStart first
  · refine ⟨b, here, ?_⟩
    rintro rfl
    exact absurd blank (by decide)
  · exact ⟨b, here, other⟩

/-- A distance with exactly one colon in it is read as well where there may be any. -/
lemma takeLooseZone?_of_exact {text rest : List Char} {n : Int}
    (read : takeExactZone? text = some (n, rest)) : takeLooseZone? text = some (n, rest) := by
  unfold takeExactZone? at read
  split at read
  · rwa [takeLooseZone?, trimStart_of_not_blank (by decide)]
  · rwa [takeLooseZone?, trimStart_of_not_blank (by decide)]
  · obtain ⟨⟨sign, r⟩, signed, read⟩ := Option.bind_eq_some_iff.1 read
    obtain ⟨⟨hours, r⟩, hour, read⟩ := Option.bind_eq_some_iff.1 read
    dsimp only at hour read
    split at read
    case h_2 => cases read
    case h_1 behind =>
      obtain ⟨⟨minutes, r⟩, minute, same⟩ := Option.bind_eq_some_iff.1 read
      -- The minutes begin with a digit, so of what may stand before them there is the colon only.
      obtain ⟨⟨m, r'⟩, two, -⟩ := Option.bind_eq_some_iff.1 minute
      obtain ⟨b, front, rfl, digit⟩ := takeNumber?_begins Nat.two_pos two
      obtain ⟨c, rfl, which⟩ := takeSign?_begins signed
      have solid : isBlank c = false := by
        rcases which with rfl | rfl | rfl <;> decide
      unfold takeLooseZone?
      rw [trimStart_of_not_blank solid]
      split
      · rename_i zulu
        cases zulu
        simp at which
      · rename_i zulu
        cases zulu
        simp at which
      · rw [signed]
        show (takeTwo? _).bind _ = _
        rw [hour]
        dsimp only [Option.bind_some]
        rw [dropWhile_colon_of_isDigit digit]
        dsimp only
        rw [minute]
        exact same

/-- Exact and loose distances are alike. -/
lemma alike_zone : Item.exactZone.Alike .looseZone := by
  refine Item.alike_of_imp fun {d text r} read => ?_
  obtain ⟨⟨n, rest⟩, zone, rfl⟩ := Option.map_eq_some_iff.1 read
  rw [Item.read?, takeLooseZone?_of_exact zone]
  rfl

/-- A distance begins with some character that is no colon. -/
lemma begins_zone {zone : Item} (which : zone = .exactZone ∨ zone = .looseZone)
    (items : List Item) : Begins (zone :: items) (fun first => ∃ c, first = some c ∧ c ≠ ':') := by
  intro d text d' read
  obtain ⟨d₁, rest, first, -⟩ := readItems?_cons_eq_some.1 read
  rcases which with rfl | rfl
  · obtain ⟨⟨n, rest⟩, zone, -⟩ := Option.map_eq_some_iff.1 first
    exact takeLooseZone?_begins (takeLooseZone?_of_exact zone)
  · obtain ⟨⟨n, rest⟩, zone, -⟩ := Option.map_eq_some_iff.1 first
    exact takeLooseZone?_begins zone

/-- No ending reads what begins with a colon. -/
lemma begins_ending (mem : items ∈ endings) : Begins items (· ≠ some ':') := by
  have begins_zone' {zone : Item} (which : zone = .exactZone ∨ zone = .looseZone) :
      Begins [zone] (· ≠ some ':') := by
    intro d text d' read colon
    obtain ⟨c, first, other⟩ := begins_zone which [] read
    exact other (Option.some.inj (first.symm.trans colon))
  simp only [endings, List.mem_cons, List.not_mem_nil, or_false] at mem
  rcases mem with rfl | rfl | rfl
  · exact begins_zone' (.inl rfl)
  · exact begins_zone' (.inr rfl)
  · intro d text d' read colon
    rw [begins_nil read] at colon
    cases colon

/-- A distance is read at the end, or nothing is left there. -/
lemma agree_zone_nil {zone : Item} (which : zone = .exactZone ∨ zone = .looseZone) :
    Agree [zone] [] := by
  refine .of_begins (begins_zone which []) begins_nil ?_
  rintro _ ⟨c, rfl, -⟩ nothing
  cases nothing

/-- All endings agree. -/
lemma agree_endings (mem : items ∈ endings) (mem' : items' ∈ endings) : Agree items items' := by
  simp only [endings, List.mem_cons, List.not_mem_nil, or_false] at mem mem'
  rcases mem with rfl | rfl | rfl <;> rcases mem' with rfl | rfl | rfl
  · exact .self _
  · exact .cons alike_zone (.self _)
  · exact agree_zone_nil (.inl rfl)
  · exact .symm (.cons alike_zone (.self _))
  · exact .self _
  · exact agree_zone_nil (.inr rfl)
  · exact (agree_zone_nil (.inl rfl)).symm
  · exact (agree_zone_nil (.inr rfl)).symm
  · exact .self _

/-! ## Separators -/

/-- White space and an hour are read where no letter stands. -/
lemma begins_blanks (items : List Item) :
    Begins (.blanks :: .loose .hour :: items) (fun first => ∃ c, first = some c ∧ c ≠ 'T') := by
  intro d text d' read
  obtain ⟨d₁, rest, blanks, read⟩ := readItems?_cons_eq_some.1 read
  obtain ⟨d₂, rest', hour, -⟩ := readItems?_cons_eq_some.1 read
  cases blanks
  obtain ⟨⟨n, r⟩, number, -⟩ := Option.map_eq_some_iff.1 hour
  obtain ⟨c, first, digit⟩ := takeLoose?_hour_begins number
  rw [trimStart, trimStart, List.dropWhile_idempotent] at first
  obtain ⟨b, here, which⟩ := head?_of_trimStart first
  refine ⟨b, here, ?_⟩
  rintro rfl
  rcases which with blank | rfl
  · exact absurd blank (by decide)
  · exact absurd digit (by decide)

/-- A separator and an hour begin with some character. -/
lemma begins_separator (separator : Separator) (items : List Item) :
    Begins (separator.item :: .loose .hour :: items) (· ≠ none) := by
  intro d text d' read nothing
  cases separator with
  | letter =>
    rw [begins_mark 'T' _ read] at nothing
    cases nothing
  | space =>
    obtain ⟨c, first, -⟩ := begins_blanks items read
    rw [first] at nothing
    cases nothing

/-- Behind different separators no pattern reads what another reads. -/
lemma agree_separators {separator separator' : Separator}
    (agree : Agree (.loose .hour :: items) (.loose .hour :: items')) :
    Agree (separator.item :: .loose .hour :: items)
      (separator'.item :: .loose .hour :: items') := by
  have apart (items items' : List Item) :
      Agree (.mark 'T' :: .loose .hour :: items) (.blanks :: .loose .hour :: items') := by
    refine .of_begins (begins_mark 'T' _) (begins_blanks items') ?_
    rintro _ rfl ⟨c, first, other⟩
    exact other (Option.some.inj first).symm
  cases separator with
  | letter =>
    cases separator' with
    | letter => exact .cons (Item.alike_self _) agree
    | space => exact apart items items'
  | space =>
    cases separator' with
    | letter => exact (apart items' items).symm
    | space => exact .cons (Item.alike_self _) agree

/-- The mark of a time is a letter T or a space, and tells nothing. -/
lemma read?_timeMark_eq_some {d d' : Draft} {text rest : List Char}
    (read : Item.timeMark.read? d text = some (d', rest)) :
    d' = d ∧ ∃ c, text = c :: rest ∧ (c = 'T' ∨ c = 't' ∨ c = ' ') := by
  unfold Item.read? at read
  dsimp only at read
  split at read <;> cases read
  · exact ⟨rfl, _, rfl, .inl rfl⟩
  · exact ⟨rfl, _, rfl, .inr (.inl rfl)⟩
  · exact ⟨rfl, _, rfl, .inr (.inr rfl)⟩

/-- The strict pattern takes one character before the hour. If it is a space, a digit is behind it,
so that another pattern takes no more white space than that. -/
lemma agree_timeMark (separator : Separator) (agree : Agree items items') :
    Agree (.timeMark :: .exact .hour :: items) (separator.item :: .loose .hour :: items') := by
  intro d text d₁ d₂ read read'
  obtain ⟨d₃, rest, time, strict⟩ := readItems?_cons_eq_some.1 read
  obtain ⟨rfl, c, rfl, which⟩ := read?_timeMark_eq_some time
  have hours : Agree (.exact .hour :: items) (.loose .hour :: items') :=
    agree.cons (alike_number .hour)
  cases separator with
  | letter =>
    obtain ⟨d₄, rest', letter, loose⟩ := readItems?_cons_eq_some.1 read'
    rw [show Separator.letter.item = .mark 'T' from rfl, Item.read?] at letter
    split_ifs at letter
    cases letter
    exact hours strict loose
  | space =>
    rcases which with rfl | rfl | rfl
    · obtain ⟨c, first, other⟩ := begins_blanks items' read'
      exact absurd (Option.some.inj first).symm other
    · obtain ⟨d₄, rest', blanks, loose⟩ := readItems?_cons_eq_some.1 read'
      cases blanks
      obtain ⟨d₅, rest'', hour, -⟩ := readItems?_cons_eq_some.1 loose
      cases hour
    · obtain ⟨d₄, rest', hour, -⟩ := readItems?_cons_eq_some.1 strict
      obtain ⟨⟨n, r⟩, number, -⟩ := Option.map_eq_some_iff.1 hour
      obtain ⟨b, behind, rfl, digit⟩ := takeNumber?_begins (by decide) number
      have skipped : readItems? (Separator.space.item :: .loose .hour :: items') d₃
          (' ' :: b :: behind) = readItems? (.loose .hour :: items') d₃ (b :: behind) :=
        readItems?_cons (read?_separator .space d₃ behind digit)
      exact hours strict (skipped.symm.trans read')

/-! ## Patterns -/

/-- Numbers in their usual digits are read by strict and loose items alike. -/
lemma alike_clockItems :
    List.Forall₂ Item.Alike [.mark ':', .exact .minute, .mark ':', .exact .second, .fraction]
      [.mark ':', .loose .minute, .mark ':', .loose .second, .fraction] := by
  refine .cons (Item.alike_self _) (.cons (alike_number _) (.cons (Item.alike_self _) ?_))
  exact .cons (alike_number _) (.cons (Item.alike_self _) .nil)

/-- The items of a date are alike in pairs, exact or loose. -/
lemma alike_dayItems : List.Forall₂ Item.Alike (dayItems .exact) (dayItems .loose) := by
  refine .cons (alike_number _) (.cons (Item.alike_self _) (.cons (alike_number _) ?_))
  exact .cons (Item.alike_self _) (.cons (alike_number _) .nil)

/-- Behind the minutes there are seconds, or there are none. -/
lemma agree_seconds (number : Field → Item) (mem : items' ∈ endings) :
    Agree (.mark ':' :: number .second :: .fraction :: items) items' := by
  refine .of_begins (begins_mark ':' _) (begins_ending mem) ?_
  rintro _ rfl other
  exact other rfl

/-- Behind the date there is a time of day, or there is none. -/
lemma agree_date (separator : Separator) (items : List Item) :
    Agree (separator.item :: .loose .hour :: items) [] :=
  .of_begins (begins_separator separator items) begins_nil fun _ some_text nothing =>
    some_text nothing

/-- A pattern of the strict items agrees with every other. -/
lemma Pattern.agree_strict (pattern : Pattern items) :
    Agree (dayItems .exact ++ .timeMark :: (clockItems .exact ++ [.exactZone])) items := by
  have strict_ending : [Item.exactZone] ∈ endings := List.mem_cons_self
  cases pattern with
  | strict => exact .self _
  | @clock separator items mem =>
    refine .append alike_dayItems (agree_timeMark separator ?_)
    exact .append alike_clockItems (agree_endings strict_ending mem)
  | @hour separator items mem =>
    refine .append alike_dayItems (agree_timeMark separator ?_)
    refine .cons (Item.alike_self _) (.cons (alike_number _) ?_)
    exact agree_seconds .exact mem
  | date =>
    refine .append alike_dayItems (.of_begins (begins_timeMark _) begins_nil ?_)
    exact fun _ some_text nothing => some_text nothing

/-- All patterns agree. -/
theorem Pattern.agree (pattern : Pattern items) (pattern' : Pattern items') :
    Agree items items' := by
  cases pattern with
  | strict => exact pattern'.agree_strict
  | @clock separator items mem =>
    cases pattern' with
    | strict => exact (Pattern.agree_strict (.clock mem)).symm
    | @clock separator' items' mem' =>
      refine .append_same _ (agree_separators ?_)
      exact .append_same (clockItems .loose) (agree_endings mem mem')
    -- The two part behind the minutes, where one asks for seconds and the other for an ending.
    | @hour separator' items' mem' =>
      refine .append_same _ (agree_separators ?_)
      exact .append_same (hourItems .loose) (agree_seconds .loose mem')
    | date => exact .append_same _ (agree_date separator _)
  | @hour separator items mem =>
    cases pattern' with
    | strict => exact (Pattern.agree_strict (.hour mem)).symm
    | @clock separator' items' mem' =>
      refine .append_same _ (agree_separators ?_)
      exact .append_same (hourItems .loose) (agree_seconds .loose mem).symm
    | @hour separator' items' mem' =>
      refine .append_same _ (agree_separators ?_)
      exact .append_same (hourItems .loose) (agree_endings mem mem')
    | date => exact .append_same _ (agree_date separator _)
  | date =>
    cases pattern' with
    | strict => exact (Pattern.agree_strict .date).symm
    | @clock separator' items' mem' => exact .append_same _ (agree_date separator' _).symm
    | @hour separator' items' mem' => exact .append_same _ (agree_date separator' _).symm
    | date => exact .self _

/-! ## Orders -/

/-- What is found in a list does not depend on its order, if all that is found in it is the same. -/
lemma findSome?_of_perm {α β : Type} {l l' : List α} {f : α → Option β} (perm : l.Perm l')
    (same : ∀ a ∈ l', ∀ b ∈ l', ∀ x y, f a = some x → f b = some y → x = y) :
    l.findSome? f = l'.findSome? f := by
  cases found : l'.findSome? f with
  | none =>
    refine List.findSome?_eq_none_iff.2 fun a mem => ?_
    exact List.findSome?_eq_none_iff.1 found a (perm.mem_iff.1 mem)
  | some x =>
    obtain ⟨a, mem, here⟩ := List.exists_of_findSome?_eq_some found
    refine findSome?_eq (fun b mem' => ?_) ⟨a, perm.mem_iff.2 mem, here⟩
    cases there : f b with
    | none => exact .inl rfl
    | some y => exact .inr (by rw [same b (perm.mem_iff.1 mem') a mem y x there here])

/-- The timestamp that a text spells if the patterns are tried in some order. -/
def readInOrder? (order : List (List Item)) (text : List Char) : Option Timestamp :=
  order.findSome? fun pattern => readBy? pattern (withoutZoneName text)

/-- To read is to try the patterns in the order in which they are listed. -/
lemma readInOrder?_patterns (text : List Char) : readInOrder? patterns text = read? text :=
  rfl

/-- Two patterns that read a text give the same timestamp. -/
lemma readBy?_unique {pattern pattern' : List Item} (mem : pattern ∈ patterns)
    (mem' : pattern' ∈ patterns) {text : List Char} {t t' : Timestamp}
    (read : readBy? pattern text = some t) (read' : readBy? pattern' text = some t') : t = t' := by
  obtain ⟨d, items, here⟩ := Option.bind_eq_some_iff.1 read
  obtain ⟨d', items', here'⟩ := Option.bind_eq_some_iff.1 read'
  obtain rfl := (pattern_of_mem mem).agree (pattern_of_mem mem') items items'
  exact Option.some.inj (here.symm.trans here')

/-- Any two patterns that accept a text give the same timestamp for it, so that in every order of
the patterns the text is read as the same timestamp or refused. -/
theorem readInOrder?_of_perm (text : List Char) :
    (∀ pattern ∈ patterns, ∀ pattern' ∈ patterns, ∀ t t',
      readBy? pattern text = some t → readBy? pattern' text = some t' → t = t') ∧
    ∀ order : List (List Item), order.Perm patterns → readInOrder? order text = read? text := by
  constructor
  · intro pattern mem pattern' mem' t t' read read'
    exact readBy?_unique mem mem' read read'
  · intro order perm
    rw [← readInOrder?_patterns]
    exact findSome?_of_perm perm fun pattern mem pattern' mem' t t' read read' =>
      readBy?_unique mem mem' read read'

/-- A leap second that the strict pattern and a loose one accept, read from the last pattern on. -/
theorem readInOrder?_of_perm_reverse :
    ∃ t t', readBy? (patterns.getD 0 []) "2017-03-01 12:30:60.5+01:00".toList = some t ∧
      readBy? (patterns.getD 2 []) "2017-03-01 12:30:60.5+01:00".toList = some t' ∧ t = t' ∧
      readInOrder? patterns.reverse "2017-03-01 12:30:60.5+01:00".toList =
        read? "2017-03-01 12:30:60.5+01:00".toList := by
  obtain ⟨same, orders⟩ := readInOrder?_of_perm "2017-03-01 12:30:60.5+01:00".toList
  have strict : readBy? (patterns.getD 0 []) "2017-03-01 12:30:60.5+01:00".toList =
      some ⟨1488367859, 1500000000⟩ := by decide
  have loose : readBy? (patterns.getD 2 []) "2017-03-01 12:30:60.5+01:00".toList =
      some ⟨1488367859, 1500000000⟩ := by decide
  refine ⟨_, _, strict, loose, ?_, orders _ (List.reverse_perm patterns)⟩
  exact same _ (by decide) _ (by decide) _ _ strict loose

end MetadataGateway.Timestamp
