import StreamPlan.Json.Quoted
import StreamPlan.Json.Writer
import StreamPlan.Proofs.DecimalTexts

/-! Written JSON taken apart again. A value is spelled with words, which stand for numbers and
constants, and with texts, lists and records of such; two values have the same text just where they
are spelled the same. -/
namespace StreamPlan.Json

section
variable {rest more : List Char}

theorem unit_hexDigits : ∀ n < 32,
    unit '0' '0' (Nat.digitChar (n / 16)) (Nat.digitChar (n % 16)) = some n := by decide

theorem stringBody_control {c : Char} (control : c.toNat < 0x20) (tail : List Char) :
    stringBody (['\\', 'u', '0', '0', Nat.digitChar (c.toNat / 16), Nat.digitChar (c.toNat % 16)] ++ tail) =
      (stringBody tail).bind fun read => some (c :: read.1, read.2) := by
  have leading : isLeading c.toNat = false := by
    simp [isLeading]
    omega
  have trailing : isTrailing c.toNat = false := by
    simp [isTrailing]
    omega
  simp [stringBody, unit_hexDigits _ control, leading, trailing]

/-- Each character is read back from its escape. -/
theorem stringBody_escape (c : Char) (tail : List Char) :
    stringBody (escape c ++ tail) = (stringBody tail).bind fun read => some (c :: read.1, read.2) := by
  unfold escape
  split_ifs with quote backslash back form line carriage tab control
  · simp [stringBody, unescape, quote]
  · simp [stringBody, unescape, backslash]
  · simp [stringBody, unescape, back]
  · simp [stringBody, unescape, form]
  · simp [stringBody, unescape, line]
  · simp [stringBody, unescape, carriage]
  · simp [stringBody, unescape, tab]
  · exact stringBody_control control tail
  · simp [stringBody, backslash, control]

/-- A text is read back up to its closing quote. -/
theorem stringBody_escaped (text tail : List Char) :
    stringBody (text.flatMap escape ++ '"' :: tail) = some (text, tail) := by
  induction text with
  | nil => rfl
  | cons c rest ih =>
    rw [List.flatMap_cons, List.append_assoc, stringBody_escape, ih]
    rfl

theorem textChars_append_inj {s t : String} (same : textChars s ++ rest = textChars t ++ more) :
    s = t ∧ rest = more := by
  have first := stringBody_escaped s.toList rest
  have second := stringBody_escaped t.toList more
  simp only [textChars, List.cons_append, List.append_assoc, List.nil_append, List.cons.injEq, true_and] at same
  rw [same, second, Option.some.injEq, Prod.mk.injEq] at first
  exact ⟨(String.toList_inj.mp first.1).symm, first.2.symm⟩

end
/-- The characters of numbers and constants; none of them ends a value or opens another. -/
def isWordChar (c : Char) : Bool := c.isAlphanum || c = '.' || c = '+' || c = '-'

structure Word where
  letters : List Char
  plain : letters.all isWordChar = true
  nonempty : letters ≠ []

theorem Word.eq_iff {v w : Word} : v = w ↔ v.letters = w.letters := by
  refine ⟨congrArg Word.letters, fun same => ?_⟩
  cases v
  cases w
  cases same
  rfl

inductive Spelling where
  | word (word : Word)
  | text (value : String)
  | list (items : List Spelling)
  | object (fields : List (String × Spelling))

namespace Spelling

mutual
def chars : Spelling → List Char
  | .word w => w.letters
  | .text s => textChars s
  | .list [] => ['[', ']']
  | .list (item :: items) => '[' :: (chars item ++ moreItems items)
  | .object [] => ['\x7b', '\x7d']
  | .object ((name, value) :: fields) => '\x7b' :: (textChars name ++ ':' :: (chars value ++ moreFields fields))
def moreItems : List Spelling → List Char
  | [] => [']']
  | item :: items => ',' :: (chars item ++ moreItems items)
def moreFields : List (String × Spelling) → List Char
  | [] => ['\x7d']
  | (name, value) :: fields => ',' :: (textChars name ++ ':' :: (chars value ++ moreFields fields))
end

/-- What a value may be recognised by. -/
inductive Kind where
  | word
  | text
  | list
  | object

def kind : Spelling → Kind
  | .word _ => .word
  | .text _ => .text
  | .list _ => .list
  | .object _ => .object

def kindOf (c : Char) : Kind :=
  if c = '"' then .text else if c = '[' then .list else if c = '\x7b' then .object else .word

/-- The first character tells the kind of the value, and ends no list. -/
theorem chars_head (a : Spelling) : ∃ c rest, a.chars = c :: rest ∧ kindOf c = a.kind ∧ c ≠ ']' := by
  cases a with
  | word w =>
    obtain ⟨letters, plain, nonempty⟩ := w
    cases letters with
    | nil => exact absurd rfl nonempty
    | cons c rest =>
      have first := List.all_eq_true.mp plain c List.mem_cons_self
      refine ⟨c, rest, by rw [chars], ?_, ?_⟩
      · unfold kindOf
        split_ifs with quote bracket brace
        · subst quote
          cases first
        · subst bracket
          cases first
        · subst brace
          cases first
        · rfl
      · rintro rfl
        cases first
  | text s => exact ⟨'"', _, rfl, rfl, by decide⟩
  | list items => cases items <;> exact ⟨'[', _, rfl, rfl, by decide⟩
  | object fields => cases fields <;> exact ⟨'\x7b', _, rfl, rfl, by decide⟩

/-- Nothing of a word follows. -/
def Ends (rest : List Char) : Prop := ∀ c ∈ rest.head?, isWordChar c = false

theorem ends_moreItems (items : List Spelling) (rest : List Char) : Ends (moreItems items ++ rest) := by
  cases items <;> simp [moreItems, Ends] <;> rfl

theorem ends_moreFields (fields : List (String × Spelling)) (rest : List Char) : Ends (moreFields fields ++ rest) := by
  cases fields <;> simp [moreFields, Ends] <;> rfl

theorem word_append_inj {v w : Word} {rest more : List Char} (ends : Ends rest) (also : Ends more)
    (same : v.letters ++ rest = w.letters ++ more) : v = w ∧ rest = more := by
  obtain ⟨first, firstRest⟩ := Decimal.run_append (List.all_eq_true.mp v.plain) ends
  obtain ⟨second, secondRest⟩ := Decimal.run_append (List.all_eq_true.mp w.plain) also
  rw [same] at first firstRest
  exact ⟨Word.eq_iff.mpr (first.symm.trans second), firstRest.symm.trans secondRest⟩

theorem chars_ne_close (a : Spelling) (rest more : List Char) : a.chars ++ rest ≠ ']' :: more := by
  obtain ⟨c, tail, chars, _, other⟩ := a.chars_head
  rw [chars]
  intro same
  exact other (List.cons.inj same).1

mutual
/-- The text of a value, whatever follows it, tells how it is spelled. -/
theorem chars_append_inj (a b : Spelling) {rest more : List Char} (ends : Ends rest) (also : Ends more)
    (same : a.chars ++ rest = b.chars ++ more) : a = b ∧ rest = more := by
  have kinds : a.kind = b.kind := by
    obtain ⟨c, _, aChars, aKind, _⟩ := a.chars_head
    obtain ⟨d, _, bChars, bKind, _⟩ := b.chars_head
    rw [aChars, bChars] at same
    rw [← aKind, ← bKind, (List.cons.inj same).1]
  match a, b with
  | .word v, .word w =>
    obtain ⟨rfl, rfl⟩ := word_append_inj ends also same
    exact ⟨rfl, rfl⟩
  | .text s, .text t =>
    obtain ⟨rfl, rfl⟩ := textChars_append_inj same
    exact ⟨rfl, rfl⟩
  | .list [], .list [] =>
    simp only [chars, List.cons_append, List.nil_append, List.cons.injEq, true_and] at same
    exact ⟨rfl, same⟩
  | .list (item :: items), .list (other :: others) =>
    -- past the bracket a list goes on as it would past a comma
    have listed : moreItems (item :: items) ++ rest = moreItems (other :: others) ++ more :=
      congrArg (',' :: ·) (List.cons.inj same).2
    obtain ⟨items, after⟩ := moreItems_append_inj (item :: items) (other :: others) ends also listed
    exact ⟨congrArg Spelling.list items, after⟩
  | .list [], .list (other :: others) =>
    simp only [chars, List.cons_append, List.append_assoc, List.nil_append, List.cons.injEq, true_and] at same
    exact absurd same.symm (chars_ne_close _ _ _)
  | .list (item :: items), .list [] =>
    simp only [chars, List.cons_append, List.append_assoc, List.nil_append, List.cons.injEq, true_and] at same
    exact absurd same (chars_ne_close _ _ _)
  | .object [], .object [] =>
    simp only [chars, List.cons_append, List.nil_append, List.cons.injEq, true_and] at same
    exact ⟨rfl, same⟩
  | .object ((name, value) :: fields), .object ((otherName, other) :: others) =>
    have listed : moreFields ((name, value) :: fields) ++ rest = moreFields ((otherName, other) :: others) ++ more :=
      congrArg (',' :: ·) (List.cons.inj same).2
    obtain ⟨fields, after⟩ := moreFields_append_inj ((name, value) :: fields) ((otherName, other) :: others) ends also
      listed
    exact ⟨congrArg Spelling.object fields, after⟩
  | .object [], .object ((_, _) :: _) | .object ((_, _) :: _), .object [] =>
    simp [chars, textChars] at same
theorem moreItems_append_inj (items others : List Spelling) {rest more : List Char} (ends : Ends rest)
    (also : Ends more) (same : moreItems items ++ rest = moreItems others ++ more) :
    items = others ∧ rest = more := by
  match items, others with
  | [], [] =>
    simp only [moreItems, List.cons_append, List.nil_append, List.cons.injEq, true_and] at same
    exact ⟨rfl, same⟩
  | item :: items, other :: others =>
    simp only [moreItems, List.cons_append, List.append_assoc, List.cons.injEq, true_and] at same
    obtain ⟨rfl, later⟩ := chars_append_inj item other (ends_moreItems _ _) (ends_moreItems _ _) same
    obtain ⟨rfl, rfl⟩ := moreItems_append_inj items others ends also later
    exact ⟨rfl, rfl⟩
  | [], _ :: _ | _ :: _, [] => simp [moreItems] at same
theorem moreFields_append_inj (fields others : List (String × Spelling)) {rest more : List Char}
    (ends : Ends rest) (also : Ends more) (same : moreFields fields ++ rest = moreFields others ++ more) :
    fields = others ∧ rest = more := by
  match fields, others with
  | [], [] =>
    simp only [moreFields, List.cons_append, List.nil_append, List.cons.injEq, true_and] at same
    exact ⟨rfl, same⟩
  | (name, value) :: fields, (otherName, other) :: others =>
    simp only [moreFields, List.cons_append, List.append_assoc, List.cons.injEq, true_and] at same
    obtain ⟨rfl, valued⟩ := textChars_append_inj same
    obtain ⟨rfl, later⟩ := chars_append_inj value other (ends_moreFields _ _) (ends_moreFields _ _)
      (List.cons.inj valued).2
    obtain ⟨rfl, rfl⟩ := moreFields_append_inj fields others ends also later
    exact ⟨rfl, rfl⟩
  | [], (_, _) :: _ | (_, _) :: _, [] => simp [moreFields] at same
end

end Spelling
open Decimal (Style Reading)

theorem isWordChar_of_isDigit {c : Char} (digit : c.isDigit = true) : isWordChar c = true := by
  simp [isWordChar, Char.isAlphanum, digit]

theorem isWordChar_of_isNumeric {c : Char} (numeric : Decimal.isNumeric c = true) : isWordChar c = true := by
  simp only [Decimal.isNumeric, Bool.or_eq_true, decide_eq_true_eq] at numeric
  rcases numeric with (((digit | rfl) | rfl) | rfl) | rfl
  · exact isWordChar_of_isDigit digit
  all_goals rfl

theorem wholeChars_plain (n : Int) :
    (Decimal.wholeChars n).all isWordChar = true ∧ Decimal.wholeChars n ≠ [] := by
  have digits : (Decimal.countChars n.natAbs).all isWordChar = true :=
    List.all_eq_true.mpr fun c member => isWordChar_of_isDigit (Decimal.isDigit_of_mem_countChars member)
  unfold Decimal.wholeChars
  split
  · exact ⟨by rw [List.all_cons, digits]; rfl, List.cons_ne_nil _ _⟩
  · exact ⟨digits, Nat.toDigits_ne_nil⟩

theorem numberChars_plain (style : Style) (reading : Reading) :
    (numberChars style reading).all isWordChar = true ∧ numberChars style reading ≠ [] := by
  unfold numberChars
  cases written : style.finiteText reading with
  | none => exact ⟨rfl, List.cons_ne_nil _ _⟩
  | some text =>
    obtain ⟨numeric, nonempty⟩ := Decimal.finiteText_numeric written
    refine ⟨List.all_eq_true.mpr fun c member => ?_, nonempty⟩
    exact isWordChar_of_isNumeric (List.all_eq_true.mp numeric c member)

/-- Numbers that are not finite are all `null`, which is no number. -/
theorem numberChars_inj (style : Style) {first second : Reading} :
    numberChars style first = numberChars style second ↔ style.finiteText first = style.finiteText second := by
  have named {text : String} {reading : Reading} (written : style.finiteText reading = some text) :
      text.toList ≠ "null".toList := fun same => by
    have numeric := (Decimal.finiteText_numeric written).1
    rw [same] at numeric
    cases numeric
  unfold numberChars
  cases one : style.finiteText first <;> cases other : style.finiteText second
  · simp
  · simpa using (named other).symm
  · simpa using named one
  · simp [String.toList_inj]

theorem numberChars_eq_iff (style : Style) {w : Decimal.Width} {u v : Nat} (uBound : u < 2 * w.signBit)
    (vBound : v < 2 * w.signBit) :
    numberChars style (w.read u) = numberChars style (w.read v) ↔
      u = v ∨ (w.read u).isFinite = false ∧ (w.read v).isFinite = false :=
  (numberChars_inj style).trans (Decimal.finiteText_eq_iff style uBound vBound)

def nullWord : Word := ⟨['n', 'u', 'l', 'l'], rfl, List.cons_ne_nil _ _⟩
def boolWord : Bool → Word
  | true => ⟨['t', 'r', 'u', 'e'], rfl, List.cons_ne_nil _ _⟩
  | false => ⟨['f', 'a', 'l', 's', 'e'], rfl, List.cons_ne_nil _ _⟩
def wholeWord (n : Int) : Word := ⟨Decimal.wholeChars n, (wholeChars_plain n).1, (wholeChars_plain n).2⟩
def numberWord (style : Style) (reading : Reading) : Word :=
  ⟨numberChars style reading, (numberChars_plain style reading).1, (numberChars_plain style reading).2⟩

theorem boolWord_eq_iff {a b : Bool} : boolWord a = boolWord b ↔ a = b := by
  cases a <;> cases b <;> simp [boolWord, Word.eq_iff]

theorem wholeWord_eq_iff {m n : Int} : wholeWord m = wholeWord n ↔ m = n := by
  rw [Word.eq_iff]
  exact Decimal.wholeChars_inj

theorem realWord_eq_iff {x y : Float} :
    numberWord doubleStyle (Decimal.readDouble x) = numberWord doubleStyle (Decimal.readDouble y) ↔
      x = y ∨ (Decimal.readDouble x).isFinite = false ∧ (Decimal.readDouble y).isFinite = false := by
  rw [Word.eq_iff, ← Decimal.double_eq_iff]
  exact numberChars_eq_iff doubleStyle x.toBits.toNat_lt y.toBits.toNat_lt

theorem singleWord_eq_iff {x y : Float32} :
    numberWord singleStyle (Decimal.readSingle x) = numberWord singleStyle (Decimal.readSingle y) ↔
      x = y ∨ (Decimal.readSingle x).isFinite = false ∧ (Decimal.readSingle y).isFinite = false := by
  rw [Word.eq_iff, ← Decimal.single_eq_iff]
  exact numberChars_eq_iff singleStyle x.toBits.toNat_lt y.toBits.toNat_lt

mutual
def spelling : Json → Spelling
  | .null => .word nullWord
  | .bool b => .word (boolWord b)
  | .whole n => .word (wholeWord n)
  | .real x => .word (numberWord doubleStyle (Decimal.readDouble x))
  | .single x => .word (numberWord singleStyle (Decimal.readSingle x))
  | .text s => .text s
  | .list items => .list (itemSpellings items)
  | .object fields => .object (fieldSpellings fields)
def itemSpellings : List Json → List Spelling
  | [] => []
  | item :: items => item.spelling :: itemSpellings items
def fieldSpellings : List (String × Json) → List (String × Spelling)
  | [] => []
  | (name, value) :: fields => (name, value.spelling) :: fieldSpellings fields
end

mutual
theorem chars_spelling (j : Json) : j.spelling.chars = j.chars := by
  match j with
  | .null | .bool true | .bool false | .whole _ | .real _ | .single _ | .text _ | .list [] | .object [] => rfl
  | .list (item :: items) =>
    rw [spelling, itemSpellings, Spelling.chars, chars, chars_spelling item, moreItems_spelling items]
  | .object ((name, value) :: fields) =>
    rw [spelling, fieldSpellings, Spelling.chars, chars, chars_spelling value, moreFields_spelling fields]
theorem moreItems_spelling (items : List Json) : Spelling.moreItems (itemSpellings items) = moreItems items := by
  match items with
  | [] => rfl
  | item :: items =>
    rw [itemSpellings, Spelling.moreItems, moreItems, chars_spelling item, moreItems_spelling items]
theorem moreFields_spelling (fields : List (String × Json)) :
    Spelling.moreFields (fieldSpellings fields) = moreFields fields := by
  match fields with
  | [] => rfl
  | (name, value) :: fields =>
    rw [fieldSpellings, Spelling.moreFields, moreFields, chars_spelling value, moreFields_spelling fields]
end

/-- Values have one text just where they are spelled the same. -/
theorem render_eq_iff {a b : Json} : a.render = b.render ↔ a.spelling = b.spelling := by
  rw [render, render, String.ofList_inj, ← chars_spelling a, ← chars_spelling b]
  refine ⟨fun same => ?_, congrArg Spelling.chars⟩
  have nothing : Spelling.Ends [] := by simp [Spelling.Ends]
  have followed : a.spelling.chars ++ [] = b.spelling.chars ++ [] := by rw [same]
  exact (Spelling.chars_append_inj _ _ nothing nothing followed).1

end StreamPlan.Json
