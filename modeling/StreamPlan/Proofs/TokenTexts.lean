import Mathlib.Data.List.TakeWhile
import StreamPlan.Expr.Token
import StreamPlan.Proofs.DecimalTexts
import StreamPlan.Proofs.Results

/-! Texts and the tokens they are cut into. Each token is cut off the head of what is left, and a blank or
a parenthesis ends whatever came before it; so texts on both sides of one are cut apart from each other. -/
namespace StreamPlan

namespace Text

variable {c : Char}

theorem Ranges.exists_of_contains {ranges : Ranges} (inside : ranges.contains c = true) :
    ∃ range ∈ ranges, range.1 ≤ c.toNat ∧ c.toNat ≤ range.2 := by
  induction ranges with
  | nil => cases inside
  | cons range ranges ih =>
    rw [Ranges.contains] at inside
    split at inside
    · exact ⟨range, List.mem_cons_self, of_decide_eq_true inside, ‹_›⟩
    · obtain ⟨other, member, between⟩ := ih inside
      exact ⟨other, List.mem_cons_of_mem _ member, between⟩

theorem blankRanges_apart : ∀ blank ∈ blankRanges, ∀ parts ∈ alphabeticRanges ++ numericRanges,
    blank.2 < parts.1 ∨ parts.2 < blank.1 := by
  decide +kernel

theorem le_toNat_of_isAlpha (letter : c.isAlpha = true) : 65 ≤ c.toNat := by
  have either : (c.isUpper || c.isLower) = true := letter
  rcases Bool.or_eq_true_iff.mp either with upper | lower
  · have range : 65 ≤ c.toNat ∧ c.toNat ≤ 90 := of_decide_eq_true upper
    exact range.1
  · have low : 97 ≤ c.toNat := of_decide_eq_true (Bool.and_eq_true_iff.mp lower).1
    omega

theorem isBlank_eq_false (apart : ∀ range ∈ blankRanges, range.2 < c.toNat ∨ c.toNat < range.1) :
    isBlank c = false := by
  refine Bool.eq_false_iff.mpr fun blank => ?_
  obtain ⟨range, among, low, high⟩ := Ranges.exists_of_contains blank
  have outside := apart range among
  omega

theorem not_isBlank_of_isAlphabetic (letter : isAlphabetic c = true) : isBlank c = false := by
  refine isBlank_eq_false fun range among => ?_
  rw [isAlphabetic] at letter
  split at letter
  · have beyond := le_toNat_of_isAlpha letter
    have apart : ∀ range ∈ blankRanges, range.2 < 65 ∨ 128 ≤ range.1 := by decide
    have outside := apart range among
    omega
  · obtain ⟨letters, also, first, last⟩ := Ranges.exists_of_contains letter
    have outside := blankRanges_apart range among letters (List.mem_append_left _ also)
    omega

theorem not_isBlank_of_isDigit (digit : c.isDigit = true) : isBlank c = false := by
  refine isBlank_eq_false fun range among => ?_
  have between : 48 ≤ c.toNat ∧ c.toNat ≤ 57 := Char.isDigit_iff_toNat.mp digit
  have apart : ∀ range ∈ blankRanges, range.2 < 48 ∨ 57 < range.1 := by decide
  have outside := apart range among
  omega

theorem not_isBlank_of_isNumeric (number : isNumeric c = true) : isBlank c = false := by
  rw [isNumeric] at number
  split at number
  · exact not_isBlank_of_isDigit number
  · refine isBlank_eq_false fun range among => ?_
    obtain ⟨numbers, also, first, last⟩ := Ranges.exists_of_contains number
    have outside := blankRanges_apart range among numbers (List.mem_append_right _ also)
    omega

end Text

namespace Token

variable {c : Char} {cs rest after : List Char} {ts us : List Token} {t : Option Token}

/-- What follows goes on with no token. -/
def Stops (rest : List Char) : Prop := ∀ c ∈ rest.head?, Text.isBlank c = true ∨ c = ')'

theorem stops_blank (blank : Text.isBlank c = true) (rest : List Char) : Stops (c :: rest) := by
  simp [Stops, blank]

theorem stops_close (rest : List Char) : Stops (')' :: rest) := by simp [Stops]

theorem Stops.no_more (stops : Stops rest) {kind : Char → Bool}
    (apart : ∀ c, kind c = true → Text.isBlank c = false) (close : kind ')' = false) :
    ∀ c ∈ rest.head?, kind c = false := by
  intro c head
  refine Bool.eq_false_iff.mpr fun inside => ?_
  obtain blank | rfl := stops c head
  · rw [apart c inside] at blank
    cases blank
  · rw [close] at inside
    cases inside

theorem not_isBlank_of_isNumberPart (c : Char) (part : isNumberPart c = true) : Text.isBlank c = false := by
  obtain digit | same := Bool.or_eq_true_iff.mp part
  · exact Text.not_isBlank_of_isDigit digit
  · rw [of_decide_eq_true same]
    decide

theorem not_isBlank_of_isNamePart (c : Char) (part : isNamePart c = true) : Text.isBlank c = false := by
  simp only [isNamePart, Text.isAlphanumeric, Bool.or_eq_true, decide_eq_true_eq] at part
  obtain ((letter | number) | rfl) | rfl := part
  · exact Text.not_isBlank_of_isAlphabetic letter
  · exact Text.not_isBlank_of_isNumeric number
  · decide
  · decide

/-- A run of characters of a kind that ends before what follows does not take any of that. -/
theorem run_within {kind : Char → Bool} (cs rest : List Char)
    (ends : cs.dropWhile kind = [] → ∀ c ∈ rest.head?, kind c = false) :
    (cs ++ rest).takeWhile kind = cs.takeWhile kind ∧ (cs ++ rest).dropWhile kind = cs.dropWhile kind ++ rest := by
  induction cs with
  | nil => exact Decimal.run_append (by simp) (ends rfl)
  | cons c cs ih =>
    rw [List.cons_append, List.takeWhile_cons, List.takeWhile_cons, List.dropWhile_cons, List.dropWhile_cons]
    rw [List.dropWhile_cons] at ends
    split
    · rename_i more
      rw [if_pos more] at ends
      exact ⟨congrArg (c :: ·) (ih ends).1, (ih ends).2⟩
    · exact ⟨rfl, rfl⟩

/-! What cuts the next token off depends on its first character alone. -/

def alone (t : Option Token) (rest : List Char) : Lexed := .ok (t, rest)

def numbered (c : Char) (rest : List Char) : Lexed :=
  (ofNumber (c :: rest.takeWhile isNumberPart)).map fun token => (some token, rest.dropWhile isNumberPart)

def named (c : Char) (rest : List Char) : Lexed :=
  .ok (some (.name (String.ofList (c :: rest.takeWhile isNamePart))), rest.dropWhile isNamePart)

theorem first_eq (c : Char) :
    first c =
      if Text.isBlank c then alone none
      else if c = '(' then alone (some .openParen)
      else if c = ')' then alone (some .closeParen)
      else if c = '\x27' ∨ c = '"' then quoted c
      else if c.isDigit then numbered c
      else if isNameStart c then named c
      else operatorOf c := by
  funext rest
  unfold first
  split_ifs <;> rfl

/-- What is cut off is the same whatever comes after it, as long as that goes on with no token. -/
structure Takes (cut : List Char → Lexed) (cs : List Char) (t : Option Token) (after : List Char) : Prop where
  leaves : after.length ≤ cs.length
  apart : ∀ rest, Stops rest → cut (cs ++ rest) = .ok (t, after ++ rest)

theorem takes_alone {u : Option Token} (read : alone u cs = .ok (t, after)) : Takes (alone u) cs t after := by
  cases read
  exact ⟨Nat.le_refl _, fun _ _ => rfl⟩

theorem takes_quoted {mark : Char} (read : quoted mark cs = .ok (t, after)) : Takes (quoted mark) cs t after := by
  unfold quoted at read
  dsimp only at read
  split at read
  · cases read
  rename_i closing later dropped
  cases read
  refine ⟨?_, fun rest _ => ?_⟩
  · have fewer := List.length_dropWhile_le (· ≠ mark) cs
    rw [dropped, List.length_cons] at fewer
    omega
  · obtain ⟨body, left⟩ := run_within cs rest fun none => by rw [dropped] at none; cases none
    simp only [quoted, body, left, dropped, List.cons_append]

theorem takes_numbered (read : numbered c cs = .ok (t, after)) : Takes (numbered c) cs t after := by
  unfold numbered at read
  cases number : ofNumber (c :: cs.takeWhile isNumberPart) with
  | error => rw [number] at read; cases read
  | ok token =>
    rw [number] at read
    cases read
    refine ⟨List.length_dropWhile_le _ _, fun rest stops => ?_⟩
    obtain ⟨body, left⟩ := run_within cs rest fun _ => stops.no_more not_isBlank_of_isNumberPart rfl
    rw [numbered, body, left, number]
    rfl

theorem takes_named (read : named c cs = .ok (t, after)) : Takes (named c) cs t after := by
  cases read
  refine ⟨List.length_dropWhile_le _ _, fun rest stops => ?_⟩
  obtain ⟨body, left⟩ := run_within cs rest fun _ => stops.no_more not_isBlank_of_isNamePart (by decide)
  rw [named, body, left]

theorem takes_operatorOf (read : operatorOf c cs = .ok (t, after)) : Takes (operatorOf c) cs t after := by
  unfold operatorOf at read
  dsimp only at read
  refine ⟨?_, fun rest stops => ?_⟩
  · have fewer : cs.tail.length ≤ cs.length := by simp
    split at read <;> cases read <;> first | exact Nat.le_refl _ | exact fewer
  · unfold operatorOf
    cases cs with
    | cons d cs =>
      dsimp only at read ⊢
      split at read <;> cases read <;> simp_all
    | nil =>
      -- what stands alone stands alone before a blank or a parenthesis as well
      cases rest with
      | nil => simpa using read
      | cons d rest =>
        have plain (e : Char) (visible : Text.isBlank e = false) (other : e ≠ ')') : d ≠ e := by
          rintro rfl
          obtain blank | closes := stops d rfl
          · rw [visible] at blank
            cases blank
          · exact other closes
        have single : d ≠ '=' ∧ d ≠ '>' := ⟨plain _ rfl (by decide), plain _ rfl (by decide)⟩
        split at read <;> cases read <;> simp_all

theorem takes_first (read : first c cs = .ok (t, after)) : Takes (first c) cs t after := by
  rw [first_eq] at read ⊢
  split_ifs at read ⊢
  · exact takes_alone read
  · exact takes_alone read
  · exact takes_alone read
  · exact takes_quoted read
  · exact takes_numbered read
  · exact takes_named read
  · exact takes_operatorOf read

/-! The bound on a text is never what ends it, so it is cut up token by token. -/

theorem scan_bound {n m : Nat} (room : cs.length ≤ n) (also : cs.length ≤ m) : scan n cs = scan m cs := by
  induction n generalizing m cs with
  | zero =>
    obtain rfl := List.length_eq_zero_iff.mp (Nat.le_zero.mp room)
    cases m <;> rfl
  | succ n ih =>
    cases cs with
    | nil => cases m <;> rfl
    | cons c cs =>
      cases m with
      | zero => cases also
      | succ m =>
        unfold scan
        cases read : first c cs with
        | error => rfl
        | ok result =>
          obtain ⟨t, after⟩ := result
          have leaves := (takes_first read).leaves
          rw [List.length_cons] at room also
          have same : scan n after = scan m after := ih (by omega) (by omega)
          simp only [ok_bind, same]

theorem ofChars_cons_eq_ok :
    ofChars (c :: cs) = .ok ts ↔
      ∃ t after us, first c cs = .ok (t, after) ∧ ofChars after = .ok us ∧ ts = t.toList ++ us := by
  unfold ofChars
  rw [List.length_cons, scan]
  cases cut : first c cs with
  | error => simp
  | ok result =>
    obtain ⟨t, after⟩ := result
    have same := scan_bound (takes_first cut).leaves (Nat.le_refl _)
    simp only [ok_bind, same]
    cases read : scan after.length after with
    | error => simp [read]
    | ok us => simp [read, eq_comm]

/-- What holds of the empty text and is kept by every token in front holds of every text that is read. -/
theorem ofChars_induction {motive : List Char → List Token → Prop} (nil : motive [] [])
    (cons : ∀ c cs t after ts, first c cs = .ok (t, after) → ofChars after = .ok ts → motive after ts →
      motive (c :: cs) (t.toList ++ ts))
    (read : ofChars cs = .ok ts) : motive cs ts := by
  induction size : cs.length using Nat.strongRecOn generalizing cs ts with
  | ind bound ih =>
    cases cs with
    | nil =>
      cases read
      exact nil
    | cons c cs =>
      obtain ⟨t, after, later, cut, others, rfl⟩ := ofChars_cons_eq_ok.mp read
      have fewer : after.length < bound := size ▸ Nat.lt_succ_of_le (takes_first cut).leaves
      exact cons c cs t after later cut others (ih after.length fewer others rfl)

/-- Texts with a break between them are cut up apart. -/
theorem ofChars_append (read : ofChars cs = .ok ts) (stops : Stops rest) (also : ofChars rest = .ok us) :
    ofChars (cs ++ rest) = .ok (ts ++ us) := by
  refine ofChars_induction (motive := fun cs ts => ofChars (cs ++ rest) = .ok (ts ++ us)) also ?_ read
  intro c cs t after later cut _ apart
  exact ofChars_cons_eq_ok.mpr
    ⟨t, after ++ rest, later ++ us, (takes_first cut).apart rest stops, apart, List.append_assoc ..⟩

theorem first_of_isBlank (blank : Text.isBlank c = true) : first c = alone none := by
  rw [first_eq, if_pos blank]

theorem ofChars_blank (blank : Text.isBlank c = true) (read : ofChars rest = .ok us) : ofChars (c :: rest) = .ok us :=
  ofChars_cons_eq_ok.mpr ⟨none, rest, us, congrFun (first_of_isBlank blank) rest, read, rfl⟩

theorem ofChars_apart (read : ofChars cs = .ok ts) (blank : Text.isBlank c = true) (also : ofChars rest = .ok us) :
    ofChars (cs ++ c :: rest) = .ok (ts ++ us) :=
  ofChars_append read (stops_blank blank rest) (ofChars_blank blank also)

theorem ofChars_spaced (read : ofChars cs = .ok ts) (also : ofChars rest = .ok us) :
    ofChars (cs ++ ' ' :: rest) = .ok (ts ++ us) :=
  ofChars_apart read rfl also

theorem ofChars_grouped (read : ofChars cs = .ok ts) :
    ofChars ('(' :: (cs ++ [')'])) = .ok (.openParen :: (ts ++ [.closeParen])) :=
  ofChars_cons_eq_ok.mpr ⟨some .openParen, _, _, rfl, ofChars_append read (stops_close []) rfl, rfl⟩

theorem ofChars_alone {u : Token} (cut : first c cs = .ok (some u, [])) : ofChars (c :: cs) = .ok [u] :=
  ofChars_cons_eq_ok.mpr ⟨some u, [], [], cut, rfl, rfl⟩

/-! Texts that are one token. -/

/-- A name that needs no quotation marks. -/
def isBareName (name : String) : Bool :=
  match name.toList with
  | [] => false
  | c :: cs => isNameStart c && cs.all isNamePart

theorem first_of_isNameStart (start : isNameStart c = true) : first c = named c := by
  have plain (d : Char) (other : isNameStart d = false) : c ≠ d := by
    rintro rfl
    rw [start] at other
    cases other
  have no_blank : Text.isBlank c = false := by
    obtain letter | same := Bool.or_eq_true_iff.mp start
    · exact Text.not_isBlank_of_isAlphabetic letter
    · rw [of_decide_eq_true same]
      decide
  have no_digit : c.isDigit = false := by
    refine Bool.eq_false_iff.mpr fun digit => ?_
    have range : 48 ≤ c.toNat ∧ c.toNat ≤ 57 := Char.isDigit_iff_toNat.mp digit
    obtain letter | same := Bool.or_eq_true_iff.mp start
    · rw [Text.isAlphabetic, if_pos (by omega)] at letter
      have beyond := Text.le_toNat_of_isAlpha letter
      omega
    · rw [of_decide_eq_true same] at digit
      cases digit
  rw [first_eq, no_blank, no_digit, if_pos start, if_neg (plain '(' (by decide)), if_neg (plain ')' (by decide)),
    if_neg (not_or.mpr ⟨plain _ (by decide), plain _ (by decide)⟩)]
  rfl

theorem ofChars_bareName {name : String} (bare : isBareName name = true) :
    ofChars name.toList = .ok [.name name] := by
  unfold isBareName at bare
  split at bare
  · cases bare
  · rename_i c cs chars
    obtain ⟨start, parts⟩ := Bool.and_eq_true_iff.mp bare
    have body : cs.takeWhile isNamePart = cs := List.takeWhile_eq_self_iff.mpr (List.all_eq_true.mp parts)
    have left : cs.dropWhile isNamePart = [] := List.dropWhile_eq_nil_iff.mpr (List.all_eq_true.mp parts)
    rw [chars]
    apply ofChars_alone
    rw [first_of_isNameStart start, named, body, left, ← chars, String.ofList_toList]

theorem first_of_isDigit (digit : c.isDigit = true) : first c = numbered c := by
  have plain (d : Char) (other : d.isDigit = false) : c ≠ d := by
    rintro rfl
    rw [digit] at other
    cases other
  rw [first_eq, Text.not_isBlank_of_isDigit digit, if_pos digit, if_neg (plain '(' rfl), if_neg (plain ')' rfl),
    if_neg (not_or.mpr ⟨plain _ rfl, plain _ rfl⟩)]
  rfl

theorem ofNumber_countChars {n : Nat} (below : n < Decimal.signedLimit) :
    ofNumber (Decimal.countChars n) = .ok (.whole (Int64.ofNat n)) := by
  have absent (c : Char) (other : c.isDigit = false) : c ∉ Decimal.countChars n := by
    intro member
    rw [Decimal.isDigit_of_mem_countChars member] at other
    cases other
  have no_point : (Decimal.countChars n).contains '.' = false := by simpa using absent '.' rfl
  have count : Decimal.count? Decimal.signedLimit (String.ofList (Decimal.countChars n)) = some n := by
    rw [Decimal.count?, String.toList_ofList]
    split
    · rename_i rest signed
      exact absurd (signed ▸ List.mem_cons_self) (absent '+' rfl)
    · simp [Decimal.natural?_countChars, below]
  rw [ofNumber, no_point, count]
  rfl

theorem ofChars_count {n : Nat} (below : n < Decimal.signedLimit) :
    ofChars (Decimal.countChars n) = .ok [.whole (Int64.ofNat n)] := by
  obtain ⟨c, cs, chars⟩ : ∃ c cs, Decimal.countChars n = c :: cs := List.exists_cons_of_ne_nil Nat.toDigits_ne_nil
  have digits := Decimal.allDigits_countChars n
  have number := ofNumber_countChars below
  rw [chars] at digits number ⊢
  have inside : ∀ d ∈ cs, isNumberPart d = true := fun d member => by
    simp [isNumberPart, digits d (List.mem_cons_of_mem _ member)]
  have body : cs.takeWhile isNumberPart = cs := List.takeWhile_eq_self_iff.mpr inside
  have left : cs.dropWhile isNumberPart = [] := List.dropWhile_eq_nil_iff.mpr inside
  apply ofChars_alone
  rw [first_of_isDigit (digits c List.mem_cons_self), numbered, body, left, number]
  rfl

/-- What stands between two marks is one token, whatever it is. -/
theorem ofChars_quoted {mark : Char} {s : String} (marks : mark = '\x27' ∨ mark = '"') (plain : mark ∉ s.toList) :
    ofChars (mark :: (s.toList ++ [mark])) = .ok [if mark = '\x27' then .text s else .name s] := by
  have inside : ∀ c ∈ s.toList, decide (c ≠ mark) = true := fun c member =>
    decide_eq_true fun same : c = mark => plain (same ▸ member)
  have ends : ∀ c ∈ [mark].head?, decide (c ≠ mark) = false := by simp
  obtain ⟨body, left⟩ := Decimal.run_append inside ends
  have cut : first mark = quoted mark := by
    rcases marks with rfl | rfl <;> rfl
  apply ofChars_alone
  rw [cut, quoted, body, left, String.ofList_toList]

theorem ofChars_text {s : String} (plain : '\x27' ∉ s.toList) :
    ofChars ('\x27' :: (s.toList ++ ['\x27'])) = .ok [.text s] := ofChars_quoted (.inl rfl) plain

theorem ofChars_quotedName {name : String} (plain : '"' ∉ name.toList) :
    ofChars ('"' :: (name.toList ++ ['"'])) = .ok [.name name] := ofChars_quoted (.inr rfl) plain

end Token
end StreamPlan
