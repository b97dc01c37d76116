import StreamPlan.Json.Reader
import StreamPlan.Proofs.JsonTexts

/-! Written JSON read back. A value that is legible along an outline is what the reader finds in its
text, as long as the value is not nested deeper than the reader goes. -/
namespace StreamPlan.Json

mutual
/-- How deep lists and objects stand in one another. -/
def nesting : Json → Nat
  | .list items => 1 + itemsNesting items
  | .object fields => 1 + fieldsNesting fields
  | _ => 0
def itemsNesting : List Json → Nat
  | [] => 0
  | item :: items => max item.nesting (itemsNesting items)
def fieldsNesting : List (String × Json) → Nat
  | [] => 0
  | (_, value) :: fields => max value.nesting (fieldsNesting fields)
end

theorem nesting_le_items {item : Json} {items : List Json} (member : item ∈ items) :
    item.nesting ≤ itemsNesting items := by
  induction items with
  | nil => cases member
  | cons first items ih =>
    rw [itemsNesting]
    rcases List.mem_cons.mp member with rfl | later
    · exact Nat.le_max_left _ _
    · exact (ih later).trans (Nat.le_max_right _ _)

theorem fieldsNesting_eq (fields : List (String × Json)) :
    fieldsNesting fields = itemsNesting (fields.map (·.2)) := by
  induction fields with
  | nil => rfl
  | cons field fields ih => rw [List.map_cons, fieldsNesting, itemsNesting, ih]

theorem nesting_le_fields {field : String × Json} {fields : List (String × Json)} (member : field ∈ fields) :
    field.2.nesting ≤ fieldsNesting fields := by
  rw [fieldsNesting_eq]
  exact nesting_le_items (List.mem_map_of_mem member)

/-- Every number is whole and fits 64 bits, with a sign or without, and every field is asked for. -/
inductive Legible : Outline → Json → Prop where
  | null {o : Outline} : Legible o .null
  | bool {o : Outline} {b : Bool} : Legible o (.bool b)
  | text {o : Outline} {s : String} : Legible o (.text s)
  | whole {o : Outline} {n : Int} (above : -(Decimal.signedLimit : Int) ≤ n) (below : n < UInt64.size) :
      Legible o (.whole n)
  | list {o : Outline} {items : List Json}
      (each : ∀ place item, items[place]? = some item → Legible (o.item place) item) : Legible o (.list items)
  | object {o : Outline} {fields : List (String × Json)}
      (asked : ∀ field ∈ fields, (o.field? field.1).isSome = true)
      (each : ∀ field ∈ fields, ∀ part ∈ o.field? field.1, Legible part field.2) : Legible o (.object fields)

@[simp] theorem legible_null (o : Outline) : Legible o .null := .null
@[simp] theorem legible_bool (o : Outline) (b : Bool) : Legible o (.bool b) := .bool
@[simp] theorem legible_text (o : Outline) (s : String) : Legible o (.text s) := .text

@[simp] theorem legible_object {o : Outline} {fields : List (String × Json)} :
    Legible o (.object fields) ↔ ∀ field ∈ fields, ∃ part, o.field? field.1 = some part ∧ Legible part field.2 := by
  constructor
  · intro legible field member
    cases legible with
    | object asked each =>
      obtain ⟨part, found⟩ := Option.isSome_iff_exists.mp (asked field member)
      exact ⟨part, found, each field member part found⟩
  · intro each
    refine .object (fun field member => ?_) fun field member part found => ?_
    · obtain ⟨part, found, _⟩ := each field member
      exact Option.isSome_iff_exists.mpr ⟨part, found⟩
    · obtain ⟨own, also, legible⟩ := each field member
      cases Option.some.inj (found.symm.trans also)
      exact legible

/-- The items of a list are legible along one outline if all are to be read along it. -/
theorem legible_map {α : Type} {o outline : Outline} (along : ∀ place, outline.item place = o) {write : α → Json}
    {as : List α} (each : ∀ a ∈ as, Legible o (write a)) : Legible outline (.list (as.map write)) := by
  refine .list fun place item found => ?_
  obtain ⟨a, member, rfl⟩ := List.mem_map.mp (List.mem_of_getElem? found)
  rw [along]
  exact each a member

section
variable {rest : List Char}

theorem skipSpace_cons {c : Char} (other : isSpace c = false) : skipSpace (c :: rest) = c :: rest := by
  simp [skipSpace, other]

/-- A space stands in no word, and begins no text, list or object. -/
theorem isSpace_apart {c : Char} (space : isSpace c = true) :
    isWordChar c = false ∧ Spelling.kindOf c = .word := by
  simp only [isSpace, Bool.or_eq_true, decide_eq_true_eq] at space
  rcases space with ((rfl | rfl) | rfl) | rfl <;> exact ⟨rfl, rfl⟩

theorem isSpace_of_isWordChar {c : Char} (word : isWordChar c = true) : isSpace c = false := by
  by_contra space
  rw [(isSpace_apart (Bool.not_eq_false _ ▸ space)).1] at word
  cases word

/-- A written value starts with a character that is no space and closes no list. -/
theorem chars_begins (j : Json) : ∃ c tail, j.chars = c :: tail ∧ isSpace c = false ∧ c ≠ ']' := by
  rw [← chars_spelling]
  obtain ⟨c, tail, chars, kind, other⟩ := j.spelling.chars_head
  refine ⟨c, tail, chars, ?_, other⟩
  cases spelled : j.spelling with
  | word w =>
    rw [spelled] at chars
    have first : c ∈ w.letters := by
      rw [Spelling.chars] at chars
      rw [chars]
      exact List.mem_cons_self
    exact isSpace_of_isWordChar (List.all_eq_true.mp w.plain c first)
  | text | list | object =>
    by_contra space
    rw [(isSpace_apart (Bool.not_eq_false _ ▸ space)).2, spelled] at kind
    cases kind

/-! Numbers. -/

theorem fractionPart_none (ends : Spelling.Ends rest) : fractionPart rest = some (none, rest) := by
  unfold fractionPart
  split
  · cases ends '.' rfl
  · rfl

theorem exponentPart_none (ends : Spelling.Ends rest) : exponentPart rest = some (none, rest) := by
  cases rest with
  | nil => rfl
  | cons c rest =>
    have other := ends c rfl
    unfold exponentPart
    apply if_neg
    rintro (rfl | rfl) <;> cases other

theorem digitChar_ne_zero : ∀ digit < 10, 0 < digit → Nat.digitChar digit ≠ '0' := by decide

theorem head_countChars {n : Nat} (positive : 0 < n) : (Decimal.countChars n).head? ≠ some '0' := by
  induction n using Nat.strongRecOn with
  | ind n ih =>
    unfold Decimal.countChars at ih ⊢
    by_cases small : n < 10
    · rw [Nat.toDigits_of_lt_base small]
      exact fun zero => digitChar_ne_zero n small positive (Option.some.inj zero)
    · -- the first digit is that of the number without its last
      rw [Nat.toDigits_of_base_le (by decide) (Nat.not_lt.mp small), List.head?_append_of_ne_nil _ Nat.toDigits_ne_nil]
      exact ih (n / 10) (by omega) (by omega)

/-- Only zero itself is written with a zero in front. -/
theorem countChars_leading (n : Nat) :
    ¬ (Decimal.countChars n = [] ∨ (Decimal.countChars n).head? = some '0' ∧ 1 < (Decimal.countChars n).length) := by
  rintro (none | ⟨zero, longer⟩)
  · exact Nat.toDigits_ne_nil none
  · rcases Nat.eq_zero_or_pos n with rfl | positive
    · revert longer
      decide
    · exact head_countChars positive zero

theorem unsigned_countChars (negative : Bool) (n : Nat) (ends : Spelling.Ends rest) :
    Numeral.unsigned negative (Decimal.countChars n ++ rest) =
      some (⟨negative, Decimal.countChars n, none, none⟩, rest) := by
  have stops : ∀ c ∈ rest.head?, c.isDigit = false := by
    intro c first
    by_contra digit
    have word := isWordChar_of_isDigit (Bool.not_eq_false _ ▸ digit)
    rw [ends c first] at word
    cases word
  unfold Numeral.unsigned
  rw [Decimal.span_digits (Decimal.allDigits_countChars n) stops]
  simp only [if_neg (countChars_leading n), fractionPart_none ends, Option.bind_eq_bind, Option.bind_some,
    exponentPart_none ends]

theorem countChars_begins (n : Nat) : ∃ c tail, Decimal.countChars n = c :: tail ∧ c.isDigit = true := by
  cases chars : Decimal.countChars n with
  | nil => exact absurd chars Nat.toDigits_ne_nil
  | cons c tail =>
    have first : c ∈ Decimal.countChars n := by
      rw [chars]
      exact List.mem_cons_self
    exact ⟨c, tail, rfl, Decimal.allDigits_countChars n c first⟩

theorem read_wholeChars (n : Int) (ends : Spelling.Ends rest) :
    Numeral.read (Decimal.wholeChars n ++ rest) = some (⟨n < 0, Decimal.countChars n.natAbs, none, none⟩, rest) := by
  unfold Decimal.wholeChars
  split_ifs with negative
  · rw [decide_eq_true negative]
    exact unsigned_countChars true _ ends
  · rw [decide_eq_false negative, ← unsigned_countChars false _ ends]
    obtain ⟨c, tail, chars, digit⟩ := countChars_begins n.natAbs
    rw [chars, List.cons_append]
    unfold Numeral.read
    split
    · rename_i minus
      cases (List.cons.inj minus).1
      cases digit
    · rfl

theorem wholeOf_countChars {n : Int} (above : -(Decimal.signedLimit : Int) ≤ n) (below : n < UInt64.size) :
    wholeOf (n < 0) (Decimal.countChars n.natAbs) = some (.whole n) := by
  unfold wholeOf
  rw [Decimal.natural_countChars]
  by_cases negative : n < 0
  · have size : 0 < n.natAbs ∧ n.natAbs ≤ Decimal.signedLimit := by omega
    have own : -(n.natAbs : Int) = n := by omega
    simp only [negative, decide_true, if_true, if_pos size, own]
  · have size : n.natAbs < UInt64.size := by omega
    have own : (n.natAbs : Int) = n := by omega
    simp only [negative, decide_false, Bool.false_eq_true, if_false, if_pos size, own]

/-- A whole number of 64 bits, with a sign or without, is read back. -/
theorem number_wholeChars {n : Int} (above : -(Decimal.signedLimit : Int) ≤ n) (below : n < UInt64.size)
    (ends : Spelling.Ends rest) : number (Decimal.wholeChars n ++ rest) = some (.whole n, rest) := by
  have value : Numeral.value? ⟨n < 0, Decimal.countChars n.natAbs, none, none⟩ = some (.whole n) :=
    wholeOf_countChars above below
  simp only [number, read_wholeChars n ends, Option.bind_eq_bind, Option.bind_some, value]

theorem wholeChars_begins (n : Int) :
    ∃ c tail, Decimal.wholeChars n = c :: tail ∧ (c = '-' ∨ c.isDigit = true) := by
  unfold Decimal.wholeChars
  split_ifs
  · exact ⟨'-', _, rfl, .inl rfl⟩
  · obtain ⟨c, tail, chars, digit⟩ := countChars_begins n.natAbs
    exact ⟨c, tail, chars, .inr digit⟩

/-- What begins with a sign or a digit is no constant and no text. -/
theorem atom_number {c : Char} {tail : List Char} (signed : c = '-' ∨ c.isDigit = true) :
    atom (c :: tail) = number (c :: tail) := by
  unfold atom
  split
  case h_5 => rfl
  all_goals
    rename_i same
    cases (List.cons.inj same).1
    rcases signed with minus | digit
    · cases minus
    · cases digit

/-! Lists and objects, with the number of characters left as the bound on their members. -/

/-- The reader finds the value in its text, whatever follows. -/
def Finds (read : Reads Json) (j : Json) : Prop :=
  ∀ rest, Spelling.Ends rest → read (j.chars ++ rest) = some (j, rest)

theorem length_moreItems (items : List Json) : items.length < (moreItems items).length := by
  induction items with
  | nil => exact Nat.zero_lt_one
  | cons item items ih =>
    simp only [moreItems, List.length_cons, List.length_append]
    omega

theorem length_moreFields (fields : List (String × Json)) : fields.length < (moreFields fields).length := by
  induction fields with
  | nil => exact Nat.zero_lt_one
  | cons field fields ih =>
    simp only [moreFields, List.length_cons, List.length_append]
    omega

theorem ends_moreItems (items : List Json) (rest : List Char) : Spelling.Ends (moreItems items ++ rest) :=
  moreItems_spelling items ▸ Spelling.ends_moreItems _ rest

theorem ends_moreFields (fields : List (String × Json)) (rest : List Char) :
    Spelling.Ends (moreFields fields ++ rest) :=
  moreFields_spelling fields ▸ Spelling.ends_moreFields _ rest

theorem itemsFrom_close {item : Nat → Reads Json} {bound place : Nat} {cs : List Char} {first : Json}
    (own : item place cs = some (first, ']' :: rest)) :
    itemsFrom item (bound + 1) place cs = some ([first], rest) := by
  rw [itemsFrom, own]
  rfl

theorem itemsFrom_comma {item : Nat → Reads Json} {bound place : Nat} {cs : List Char} {first : Json}
    {others : List Json} {more : List Char} (own : item place cs = some (first, ',' :: more))
    (later : itemsFrom item bound (place + 1) more = some (others, rest)) :
    itemsFrom item (bound + 1) place cs = some (first :: others, rest) := by
  rw [itemsFrom, own]
  change ((itemsFrom item bound (place + 1) more).bind fun read => some (first :: read.1, read.2)) = _
  rw [later]
  rfl

theorem itemsFrom_chars {item : Nat → Reads Json} {first : Json} {items : List Json} {bound place : Nat}
    (enough : items.length < bound) (each : ∀ k j, (first :: items)[k]? = some j → Finds (item (place + k)) j) :
    itemsFrom item bound place (first.chars ++ (moreItems items ++ rest)) = some (first :: items, rest) := by
  induction items generalizing first bound place with
  | nil =>
    obtain ⟨bound, rfl⟩ := Nat.exists_eq_succ_of_ne_zero (Nat.ne_zero_of_lt enough)
    exact itemsFrom_close (each 0 first rfl _ (ends_moreItems [] rest))
  | cons second items ih =>
    obtain ⟨bound, rfl⟩ := Nat.exists_eq_succ_of_ne_zero (Nat.ne_zero_of_lt enough)
    have own := each 0 first rfl _ (ends_moreItems (second :: items) rest)
    have later := ih (Nat.lt_of_succ_lt_succ enough) fun k j found => by
      have next := each (k + 1) j found
      rwa [← Nat.add_assoc, Nat.add_right_comm] at next
    rw [moreItems, List.cons_append, List.append_assoc] at own ⊢
    exact itemsFrom_comma own later

theorem fieldOf_chars {part : String → Option (Reads Json)} {name : String} {value : Json} {read : Reads Json}
    (asked : part name = some read) (finds : Finds read value) (ends : Spelling.Ends rest) :
    fieldOf part (textChars name ++ ':' :: (value.chars ++ rest)) = some (some (name, value), rest) := by
  have named : stringBody (name.toList.flatMap escape ++ '"' :: ':' :: (value.chars ++ rest)) =
      some (name.toList, ':' :: (value.chars ++ rest)) := stringBody_escaped _ _
  have texts : textChars name ++ ':' :: (value.chars ++ rest) =
      '"' :: (name.toList.flatMap escape ++ '"' :: ':' :: (value.chars ++ rest)) := by simp [textChars]
  rw [texts]
  unfold fieldOf
  rw [skipSpace_cons rfl]
  simp only [named, Option.bind_eq_bind, Option.bind_some, skipSpace_cons (c := ':') rfl, String.ofList_toList, asked,
    finds rest ends]

theorem fieldsFrom_close {part : String → Option (Reads Json)} {bound : Nat} {cs : List Char}
    {first : String × Json} (own : fieldOf part cs = some (some first, '\x7d' :: rest)) :
    fieldsFrom part (bound + 1) cs = some ([first], rest) := by
  rw [fieldsFrom, own]
  rfl

theorem fieldsFrom_comma {part : String → Option (Reads Json)} {bound : Nat} {cs : List Char}
    {first : String × Json} {others : List (String × Json)} {more : List Char}
    (own : fieldOf part cs = some (some first, ',' :: more))
    (later : fieldsFrom part bound more = some (others, rest)) :
    fieldsFrom part (bound + 1) cs = some (first :: others, rest) := by
  rw [fieldsFrom, own]
  change ((fieldsFrom part bound more).bind fun read => some (first :: read.1, read.2)) = _
  rw [later]
  rfl

theorem fieldsFrom_chars {part : String → Option (Reads Json)} {name : String} {value : Json}
    {fields : List (String × Json)} {bound : Nat} (enough : fields.length < bound)
    (each : ∀ field ∈ (name, value) :: fields, ∃ read, part field.1 = some read ∧ Finds read field.2) :
    fieldsFrom part bound (textChars name ++ ':' :: (value.chars ++ (moreFields fields ++ rest))) =
      some ((name, value) :: fields, rest) := by
  induction fields generalizing name value bound with
  | nil =>
    obtain ⟨bound, rfl⟩ := Nat.exists_eq_succ_of_ne_zero (Nat.ne_zero_of_lt enough)
    obtain ⟨read, asked, finds⟩ := each _ List.mem_cons_self
    exact fieldsFrom_close (fieldOf_chars asked finds (ends_moreFields [] rest))
  | cons second fields ih =>
    obtain ⟨bound, rfl⟩ := Nat.exists_eq_succ_of_ne_zero (Nat.ne_zero_of_lt enough)
    obtain ⟨read, asked, finds⟩ := each _ List.mem_cons_self
    have own := fieldOf_chars asked finds (ends_moreFields (second :: fields) rest)
    have later := ih (Nat.lt_of_succ_lt_succ enough) fun field member => each field (List.mem_cons_of_mem _ member)
    rw [moreFields, List.cons_append, List.append_assoc, List.cons_append, List.append_assoc] at own ⊢
    exact fieldsFrom_comma own later

/-- What begins a value does not close the list. -/
theorem listOf_item (item : Nat → Reads Json) {cs : List Char}
    (begins : ∃ c tail, cs = c :: tail ∧ isSpace c = false ∧ c ≠ ']') :
    listOf item cs = (itemsFrom item cs.length 0 cs).map fun read => (.list read.1, read.2) := by
  obtain ⟨c, tail, rfl, other, item⟩ := begins
  unfold listOf
  rw [skipSpace_cons other]
  split
  case h_1 same => exact absurd (List.cons.inj same).1 item
  case h_2 => rfl

theorem listOf_chars {item : Nat → Reads Json} {items : List Json} (rest : List Char)
    (each : ∀ place j, items[place]? = some j → Finds (item place) j) :
    ∃ cs, (Json.list items).chars ++ rest = '[' :: cs ∧ listOf item cs = some (.list items, rest) := by
  cases items with
  | nil => exact ⟨_, rfl, rfl⟩
  | cons first items =>
    refine ⟨first.chars ++ (moreItems items ++ rest), by rw [chars, List.cons_append, List.append_assoc], ?_⟩
    have enough : items.length < (first.chars ++ (moreItems items ++ rest)).length := by
      have shorter := length_moreItems items
      simp only [List.length_append]
      omega
    have found : itemsFrom item _ 0 (first.chars ++ (moreItems items ++ rest)) = some (first :: items, rest) :=
      itemsFrom_chars enough fun k j member => by
        rw [Nat.zero_add]
        exact each k j member
    obtain ⟨c, tail, begins, other, inside⟩ := first.chars_begins
    have opened : first.chars ++ (moreItems items ++ rest) = c :: (tail ++ (moreItems items ++ rest)) := by
      rw [begins, List.cons_append]
    rw [listOf_item item ⟨c, _, opened, other, inside⟩, found]
    rfl

theorem objectOf_chars {part : String → Option (Reads Json)} {fields : List (String × Json)} (rest : List Char)
    (each : ∀ field ∈ fields, ∃ read, part field.1 = some read ∧ Finds read field.2) :
    ∃ cs, (Json.object fields).chars ++ rest = '\x7b' :: cs ∧ objectOf part cs = some (.object fields, rest) := by
  cases fields with
  | nil => exact ⟨_, rfl, rfl⟩
  | cons first fields =>
    let cs := textChars first.1 ++ ':' :: (first.2.chars ++ (moreFields fields ++ rest))
    have enough : fields.length < cs.length := by
      have shorter := length_moreFields fields
      simp only [cs, List.length_append, List.length_cons]
      omega
    have found : fieldsFrom part cs.length cs = some (first :: fields, rest) := fieldsFrom_chars enough each
    refine ⟨cs, by simp [cs, chars], ?_⟩
    -- a name begins with its quote, which closes no object
    change (fieldsFrom part cs.length cs).map _ = _
    rw [found]
    rfl

/-! Values. -/

theorem value_atom (depth : Nat) (o : Outline) {c : Char} {tail : List Char} (other : isSpace c = false)
    (list : c ≠ '[') (object : c ≠ '\x7b') : value depth o (c :: tail) = atom (c :: tail) := by
  unfold value
  rw [skipSpace_cons other]
  split <;> simp_all

theorem value_whole (depth : Nat) (o : Outline) {n : Int} (above : -(Decimal.signedLimit : Int) ≤ n)
    (below : n < UInt64.size) : Finds (value depth o) (.whole n) := by
  intro rest ends
  have read := number_wholeChars above below ends
  obtain ⟨c, tail, begins, signed⟩ := wholeChars_begins n
  have word : isWordChar c = true := signed.elim (fun minus => by rw [minus]; rfl) isWordChar_of_isDigit
  rw [begins, List.cons_append] at read
  rw [chars, begins, List.cons_append, value_atom depth o (isSpace_of_isWordChar word), atom_number signed, read]
  all_goals
    rintro rfl
    cases word

/-- A value that is legible along the outline is found in its text. -/
theorem value_chars {o : Outline} {j : Json} (legible : Legible o j) {depth : Nat} (room : j.nesting ≤ depth) :
    Finds (value depth o) j := by
  induction legible generalizing depth with
  | null => exact fun rest _ => value_atom depth _ rfl (by decide) (by decide)
  | @bool o b =>
    cases b <;> exact fun rest _ => value_atom depth _ rfl (by decide) (by decide)
  | @text o s =>
    intro rest _
    have atoms : atom (textChars s ++ rest) = some (.text s, rest) := by
      simp [textChars, atom, stringBody_escaped]
    exact (value_atom depth o rfl (by decide) (by decide)).trans atoms
  | @whole o n above below => exact value_whole depth o above below
  | @list o items each ih =>
    intro rest _
    -- the brackets take one of the levels that are left
    rw [nesting] at room
    obtain ⟨deeper, rfl⟩ : ∃ deeper, depth = deeper + 1 := Nat.exists_eq_add_one.mpr (by omega)
    have inside (place : Nat) (item : Json) (found : items[place]? = some item) :
        Finds (value deeper (o.item place)) item := by
      have bound := nesting_le_items (List.mem_of_getElem? found)
      exact ih place item found (by omega)
    obtain ⟨cs, text, read⟩ := listOf_chars rest inside
    rw [text]
    exact read
  | @object o fields asked each ih =>
    intro rest _
    rw [nesting] at room
    obtain ⟨deeper, rfl⟩ : ∃ deeper, depth = deeper + 1 := Nat.exists_eq_add_one.mpr (by omega)
    let part (name : String) := (o.field? name).map (value deeper)
    have inside (field : String × Json) (member : field ∈ fields) :
        ∃ read, part field.1 = some read ∧ Finds read field.2 := by
      obtain ⟨part, found⟩ := Option.isSome_iff_exists.mp (asked field member)
      have bound := nesting_le_fields member
      refine ⟨value deeper part, ?_, ih field member part found (by omega)⟩
      exact congrArg (Option.map (value deeper)) found
    obtain ⟨cs, text, read⟩ := objectOf_chars rest inside
    rw [text]
    exact read

/-- The text of a legible value is read as that value. -/
theorem readAlong_render {o : Outline} {j : Json} (legible : Legible o j) (room : j.nesting ≤ nestingLimit) :
    readAlong o j.render = some j := by
  have found := value_chars legible room [] (by simp [Spelling.Ends])
  rw [List.append_nil] at found
  unfold readAlong
  rw [render, String.toList_ofList, found]
  rfl

end
end StreamPlan.Json
