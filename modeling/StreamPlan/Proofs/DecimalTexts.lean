import StreamPlan.Decimal.Reader
import StreamPlan.Decimal.Style
import StreamPlan.Proofs.ShortestDigits

/-! Written floating-point numbers. Whatever the style, the text of a number reads back as a decimal of
the same worth; so no two words of a width have the same text. -/
namespace StreamPlan.Decimal

theorem natural_append (digits more : List Char) :
    natural (digits ++ more) = 10 ^ more.length * natural digits + natural more := by
  unfold natural
  rw [Nat.ofDigitChars_append, Nat.ofDigitChars_eq_ofDigitChars_zero]

theorem natural_zeros (n : Nat) : natural (zeros n) = 0 := by
  induction n with
  | zero => rfl
  | succ n ih =>
    rw [zeros, List.replicate_succ', natural_append]
    change 10 * natural (zeros n) + 0 = 0
    rw [ih]

theorem natural_zeros_append (n : Nat) (digits : List Char) : natural (zeros n ++ digits) = natural digits := by
  rw [natural_append, natural_zeros, Nat.mul_zero, Nat.zero_add]

theorem natural_append_zeros (text : List Char) (n : Nat) : natural (text ++ zeros n) = natural text * 10 ^ n := by
  rw [natural_append, natural_zeros, Nat.add_zero, Nat.mul_comm, zeros, List.length_replicate]

def AllDigits (text : List Char) : Prop := ∀ c ∈ text, c.isDigit = true

theorem allDigits_zeros (n : Nat) : AllDigits (zeros n) := by
  intro c member
  obtain rfl := List.eq_of_mem_replicate member
  rfl

theorem allDigits_countChars (n : Nat) : AllDigits (countChars n) :=
  fun _ member => isDigit_of_mem_countChars member

theorem AllDigits.append {text more : List Char} (digits : AllDigits text) (also : AllDigits more) :
    AllDigits (text ++ more) := fun c member => (List.mem_append.mp member).elim (digits c) (also c)

/-- A run of characters of a kind ends where the next is not of it. -/
theorem run_append {kind : Char → Bool} {text rest : List Char} (inside : ∀ c ∈ text, kind c = true)
    (stops : ∀ c ∈ rest.head?, kind c = false) :
    (text ++ rest).takeWhile kind = text ∧ (text ++ rest).dropWhile kind = rest := by
  have none : rest.takeWhile kind = [] ∧ rest.dropWhile kind = rest := by
    cases rest with
    | nil => exact ⟨rfl, rfl⟩
    | cons c rest =>
      have other := stops c rfl
      simp [other]
  rw [List.takeWhile_append_of_pos inside, List.dropWhile_append_of_pos inside, none.1, none.2, List.append_nil]
  exact ⟨rfl, rfl⟩

theorem span_digits {text rest : List Char} (digits : AllDigits text)
    (ends : ∀ c ∈ rest.head?, c.isDigit = false) : (text ++ rest).span Char.isDigit = (text, rest) := by
  rw [List.span_eq_takeWhile_dropWhile, (run_append digits ends).1, (run_append digits ends).2]

/-- The text reads as a number of the given worth. -/
def Reads (text : List Char) (x : ℚ) : Prop :=
  ∃ significand exponent, number? false text = some (.number false significand exponent) ∧
    worth significand exponent = x

theorem Reads.unique {text : List Char} {x y : ℚ} (reads : Reads text x) (also : Reads text y) : x = y := by
  obtain ⟨_, _, read, rfl⟩ := reads
  obtain ⟨_, _, again, rfl⟩ := also
  cases read.symm.trans again
  rfl

/-- What may follow the digits of a number: nothing or an exponent. -/
structure Tail (tail : List Char) (exponent : Int) : Prop where
  read : exponent? tail = some exponent
  marked : ∀ c ∈ tail.head?, c = 'e'

theorem tail_nil : Tail [] 0 := ⟨rfl, by simp⟩

theorem tail_exponent (leading : Int) :
    Tail ('e' :: (if leading < 0 then '-' else '+') :: countChars leading.natAbs) leading := by
  refine ⟨?_, by simp⟩
  by_cases negative : leading < 0
  · simp [exponent?, splitSign, natural?_countChars, negative, abs_of_neg negative]
  · simp [exponent?, splitSign, natural?_countChars, negative, abs_of_nonneg (not_lt.mp negative)]

section
variable {text fraction tail : List Char} {exponent : Int}

theorem reads_whole (digits : AllDigits text) (some_digit : text ≠ []) (ends : Tail tail exponent) :
    Reads (text ++ tail) (worth (natural text) exponent) := by
  refine ⟨natural text, exponent, ?_, rfl⟩
  have stops : ∀ c ∈ tail.head?, c.isDigit = false := fun c first => by
    rw [ends.marked c first]
    rfl
  unfold number?
  rw [span_digits digits stops]
  dsimp only
  split
  · rename_i after
    cases ends.marked '.' rfl
  · simp [some_digit, ends.read]

theorem reads_pointed (digits : AllDigits text) (some_digit : text ≠ []) (more : AllDigits fraction)
    (ends : Tail tail exponent) :
    Reads (text ++ '.' :: (fraction ++ tail)) (worth (natural (text ++ fraction)) (exponent - fraction.length)) := by
  refine ⟨natural (text ++ fraction), exponent - fraction.length, ?_, rfl⟩
  have stops : ∀ c ∈ tail.head?, c.isDigit = false := fun c first => by
    rw [ends.marked c first]
    rfl
  have after := run_append more stops
  unfold number?
  rw [span_digits digits (by simp)]
  simp [after, some_digit, ends.read]

theorem reads_inPlace (wholeMark : Bool) (digits : AllDigits text) (some_digit : text ≠ []) (exponent : Int) :
    Reads (inPlace wholeMark text exponent) (worth (natural text) exponent) := by
  have length : 0 < text.length := List.length_pos_iff.mpr some_digit
  unfold inPlace
  dsimp only
  split
  · -- zeros up to the point
    rename_i whole
    obtain ⟨n, rfl⟩ := Int.eq_ofNat_of_zero_le whole
    have padded : AllDigits (text ++ zeros n) := digits.append (allDigits_zeros n)
    have some_padded : text ++ zeros n ≠ [] := by simp [some_digit]
    cases wholeMark with
    | true =>
      have reads := reads_pointed padded some_padded (allDigits_zeros 1) tail_nil
      rw [natural_append_zeros, natural_append_zeros, Nat.mul_assoc, ← Nat.pow_add, worth_mul_pow] at reads
      have same : (0 - (zeros 1).length + (n + 1 : Nat) : Int) = n := by
        simp [zeros]
      rw [same] at reads
      exact reads
    | false =>
      have reads := reads_whole padded some_padded tail_nil
      rw [natural_append_zeros, worth_mul_pow, Int.zero_add] at reads
      simpa using reads
  · rename_i fraction
    split
    · -- the point among the digits
      rename_i inside
      have before : AllDigits (text.take (text.length + exponent).toNat) :=
        fun c member => digits c (List.mem_of_mem_take member)
      have after : AllDigits (text.drop (text.length + exponent).toNat) :=
        fun c member => digits c (List.mem_of_mem_drop member)
      have some_before : text.take (text.length + exponent).toNat ≠ [] := by
        refine List.length_pos_iff.mp ?_
        rw [List.length_take]
        omega
      have reads := reads_pointed before some_before after tail_nil
      rw [List.take_append_drop, List.length_drop, List.append_nil] at reads
      have same : (0 - (text.length - (text.length + exponent).toNat : Nat) : Int) = exponent := by omega
      rw [same] at reads
      exact reads
    · -- zeros from the point to the digits
      have zero : AllDigits ['0'] := allDigits_zeros 1
      have reads := reads_pointed zero (by simp) ((allDigits_zeros (-(text.length + exponent)).toNat).append digits)
        tail_nil
      have behind := natural_zeros_append 1 (zeros (-(text.length + exponent)).toNat ++ text)
      rw [show ['0'] = zeros 1 from rfl, behind, natural_zeros_append, List.append_nil] at reads
      have same : (0 - (zeros (-(text.length + exponent)).toNat ++ text).length : Int) = exponent := by
        simp only [zeros, List.length_append, List.length_replicate]
        omega
      rw [same] at reads
      exact reads

theorem reads_withExponent (digits : AllDigits text) (some_digit : text ≠ []) (leading : Int) :
    Reads (withExponent text leading) (worth (natural text) (leading + 1 - text.length)) := by
  cases text with
  | nil => exact absurd rfl some_digit
  | cons first more =>
    have one : AllDigits [first] := fun c member => digits c (List.mem_cons.mpr (.inl (List.mem_singleton.mp member)))
    have rest : AllDigits more := fun c member => digits c (List.mem_cons_of_mem _ member)
    unfold withExponent
    cases more with
    | nil =>
      have reads := reads_whole one (by simp) (tail_exponent leading)
      simpa using reads
    | cons second others =>
      have reads := reads_pointed one (by simp) rest (tail_exponent leading)
      have same : leading + 1 - ((first :: second :: others).length : Int) = leading - (second :: others).length := by
        simp only [List.length_cons]
        omega
      rw [same]
      simpa using reads

/-- Read back, a written number is worth what its digits are. -/
theorem reads_layOut (style : Style) (figures : Figures) : Reads (style.layOut figures) figures.worth := by
  have digits := allDigits_countChars figures.significand
  have some_digit : countChars figures.significand ≠ [] := Nat.toDigits_ne_nil
  unfold Style.layOut Figures.worth
  dsimp only
  split
  · have reads := reads_inPlace style.wholeMark digits some_digit figures.exponent
    rwa [natural_countChars] at reads
  · have reads := reads_withExponent digits some_digit
      (figures.exponent + (countChars figures.significand).length - 1)
    have same : figures.exponent + ((countChars figures.significand).length : Int) - 1 + 1 -
        (countChars figures.significand).length = figures.exponent := by omega
    rwa [natural_countChars, same] at reads

end

/-- The characters of a written number: digits, a point, an exponent and its sign. -/
def isNumeric (c : Char) : Bool := c.isDigit || c = '.' || c = 'e' || c = '+' || c = '-'

section
variable {text : List Char}

theorem AllDigits.numeric (digits : AllDigits text) : text.all isNumeric = true := by
  refine List.all_eq_true.mpr fun c member => ?_
  simp [isNumeric, digits c member]

theorem inPlace_numeric (wholeMark : Bool) (digits : AllDigits text) (exponent : Int) :
    (inPlace wholeMark text exponent).all isNumeric = true := by
  have mark : (if wholeMark = true then ['.', '0'] else []).all isNumeric = true := by
    cases wholeMark <;> rfl
  have before (n : Nat) : (text.take n).all isNumeric = true :=
    AllDigits.numeric fun c member => digits c (List.mem_of_mem_take member)
  have after (n : Nat) : (text.drop n).all isNumeric = true :=
    AllDigits.numeric fun c member => digits c (List.mem_of_mem_drop member)
  have point : isNumeric '.' = true := rfl
  have zero : isNumeric '0' = true := rfl
  unfold inPlace
  dsimp only
  split
  · rw [List.all_append, List.all_append, digits.numeric, (allDigits_zeros _).numeric, mark]
    rfl
  · split
    · rw [List.all_append, List.all_cons, before, after, point]
      rfl
    · rw [List.all_cons, List.all_cons, List.all_append, (allDigits_zeros _).numeric, digits.numeric, point, zero]
      rfl

theorem withExponent_numeric (digits : AllDigits text) (leading : Int) :
    (withExponent text leading).all isNumeric = true := by
  have before : (text.take 1).all isNumeric = true :=
    AllDigits.numeric fun c member => digits c (List.mem_of_mem_take member)
  have after : (if text.length ≤ 1 then [] else '.' :: text.drop 1).all isNumeric = true := by
    split
    · rfl
    · rw [List.all_cons, AllDigits.numeric fun c member => digits c (List.mem_of_mem_drop member)]
      rfl
  have sign : isNumeric (if leading < 0 then '-' else '+') = true := by
    split <;> rfl
  unfold withExponent
  rw [List.all_append, List.all_append, List.all_cons, List.all_cons, before, after, sign,
    (allDigits_countChars _).numeric]
  rfl

theorem layOut_numeric (style : Style) (figures : Figures) : (style.layOut figures).all isNumeric = true := by
  unfold Style.layOut
  dsimp only
  split
  · exact inPlace_numeric _ (allDigits_countChars _) _
  · exact withExponent_numeric (allDigits_countChars _) _

theorem Reads.ne_minus {x : ℚ} (reads : Reads text x) (rest : List Char) : text ≠ '-' :: rest := by
  rintro rfl
  obtain ⟨_, _, read, _⟩ := reads
  cases read

theorem Reads.ne_nil {x : ℚ} (reads : Reads text x) : text ≠ [] := by
  rintro rfl
  obtain ⟨_, _, read, _⟩ := reads
  cases read

end

/-- The digits of a magnitude. -/
def figuresOf (tie : Tie) (mantissa : Nat) (power : Int) (narrow : Bool) : Figures :=
  if mantissa = 0 then ⟨0, 0⟩ else shortest tie mantissa power narrow

theorem finiteText_eq_some {style : Style} {reading : Reading} {text : String}
    (written : style.finiteText reading = some text) :
    ∃ negative mantissa power narrow, reading = .finite negative mantissa power narrow ∧
      text.toList = (if negative then ['-'] else []) ++ style.layOut (figuresOf style.tie mantissa power narrow) := by
  cases reading with
  | notANumber | infinite => cases written
  | finite negative mantissa power narrow =>
    cases written
    exact ⟨negative, mantissa, power, narrow, rfl, String.toList_ofList⟩

theorem finiteText_numeric {style : Style} {reading : Reading} {text : String}
    (written : style.finiteText reading = some text) :
    text.toList.all isNumeric = true ∧ text.toList ≠ [] := by
  obtain ⟨negative, mantissa, power, narrow, rfl, chars⟩ := finiteText_eq_some written
  have reads := reads_layOut style (figuresOf style.tie mantissa power narrow)
  have sign : (if negative = true then ['-'] else []).all isNumeric = true := by
    cases negative <;> rfl
  rw [chars, List.all_append, sign, layOut_numeric]
  exact ⟨rfl, fun none => reads.ne_nil (List.append_eq_nil_iff.mp none).2⟩

theorem sign_eq {text other : List Char} {x y : ℚ} {negative also : Bool} (reads : Reads text x)
    (readsOther : Reads other y)
    (same : (if negative then ['-'] else []) ++ text = (if also then ['-'] else []) ++ other) :
    negative = also ∧ text = other := by
  cases negative <;> cases also
  · exact ⟨rfl, same⟩
  · exact absurd same (reads.ne_minus other)
  · exact absurd same.symm (readsOther.ne_minus text)
  · exact ⟨rfl, List.tail_eq_of_cons_eq same⟩

theorem worth_figuresOf_zero (tie : Tie) (power : Int) (narrow : Bool) :
    (figuresOf tie 0 power narrow).worth = 0 := by
  simp [figuresOf, Figures.worth, worth]

theorem figuresOf_readsBack (tie : Tie) {mantissa : Nat} (some_mantissa : mantissa ≠ 0) (power : Int)
    (narrow : Bool) : ReadsBack mantissa power narrow (figuresOf tie mantissa power narrow).worth := by
  rw [figuresOf, if_neg some_mantissa]
  exact shortest_readsBack tie some_mantissa power narrow

theorem Width.Canonical.least_of_zero {w : Width} {power : Int} (canonical : w.Canonical 0 power) :
    power = w.lowest := by
  refine (lt_or_eq_of_le canonical.least).elim (fun raised => ?_) Eq.symm
  exact absurd (canonical.full raised) (Nat.not_le.mpr (Nat.two_pow_pos _))

/-- Magnitudes of a width whose digits are worth the same are the same. -/
theorem canonical_eq_of_worth {w : Width} {tie : Tie} {mantissa other : Nat} {power later : Int}
    (canonical : w.Canonical mantissa power) (also : w.Canonical other later)
    (same : (figuresOf tie mantissa power (w.isNarrow mantissa power)).worth =
      (figuresOf tie other later (w.isNarrow other later)).worth) : mantissa = other ∧ power = later := by
  by_cases zero : mantissa = 0
  · subst zero
    rw [worth_figuresOf_zero] at same
    by_cases alsoZero : other = 0
    · subst alsoZero
      exact ⟨rfl, canonical.least_of_zero.trans also.least_of_zero.symm⟩
    · exact absurd same (figuresOf_readsBack tie alsoZero _ _ |>.pos alsoZero).ne
  · have reads := figuresOf_readsBack tie zero power (w.isNarrow mantissa power)
    by_cases alsoZero : other = 0
    · subst alsoZero
      rw [worth_figuresOf_zero] at same
      exact absurd same (reads.pos zero).ne'
    · have readsOther := figuresOf_readsBack tie alsoZero later (w.isNarrow other later)
      rw [same] at reads
      exact Width.canonical_unique canonical also reads readsOther

/-- No two words of a width have the same text in a style. -/
theorem finiteText_injective (style : Style) {w : Width} {u v : Nat} (uBound : u < 2 * w.signBit)
    (vBound : v < 2 * w.signBit) {text : String} (uText : style.finiteText (w.read u) = some text)
    (vText : style.finiteText (w.read v) = some text) : u = v := by
  obtain ⟨negative, mantissa, power, narrow, uRead, uChars⟩ := finiteText_eq_some uText
  obtain ⟨also, other, later, alsoNarrow, vRead, vChars⟩ := finiteText_eq_some vText
  obtain ⟨_, canonical, rfl, _⟩ := Width.read_eq_finite uRead
  obtain ⟨_, alsoCanonical, rfl, _⟩ := Width.read_eq_finite vRead
  have uReads := reads_layOut style (figuresOf style.tie mantissa power (w.isNarrow mantissa power))
  have vReads := reads_layOut style (figuresOf style.tie other later (w.isNarrow other later))
  obtain ⟨rfl, same⟩ := sign_eq uReads vReads (uChars.symm.trans vChars)
  rw [same] at uReads
  obtain ⟨rfl, rfl⟩ := canonical_eq_of_worth canonical alsoCanonical (uReads.unique vReads)
  exact Width.read_injective uBound vBound uRead vRead

def Reading.isFinite : Reading → Bool
  | .finite .. => true
  | _ => false

theorem isSome_finiteText (style : Style) (reading : Reading) :
    (style.finiteText reading).isSome = reading.isFinite := by
  cases reading <;> rfl

theorem finiteText_eq_iff (style : Style) {w : Width} {u v : Nat} (uBound : u < 2 * w.signBit)
    (vBound : v < 2 * w.signBit) :
    style.finiteText (w.read u) = style.finiteText (w.read v) ↔
      u = v ∨ (w.read u).isFinite = false ∧ (w.read v).isFinite = false := by
  rw [← isSome_finiteText style, ← isSome_finiteText style, Option.isSome_eq_false_iff, Option.isSome_eq_false_iff,
    Option.isNone_iff_eq_none, Option.isNone_iff_eq_none]
  constructor
  · intro same
    cases written : style.finiteText (w.read u) with
    | none => exact .inr ⟨rfl, same.symm.trans written⟩
    | some text => exact .inl (finiteText_injective style uBound vBound written (same.symm.trans written))
  · rintro (rfl | ⟨uNone, vNone⟩)
    · rfl
    · rw [uNone, vNone]

theorem double_eq_iff {x y : Float} : x.toBits.toNat = y.toBits.toNat ↔ x = y := by
  refine ⟨fun same => ?_, fun same => by rw [same]⟩
  obtain ⟨⟨_, _⟩⟩ := x
  obtain ⟨⟨_, _⟩⟩ := y
  cases UInt64.toNat_inj.mp same
  rfl

theorem single_eq_iff {x y : Float32} : x.toBits.toNat = y.toBits.toNat ↔ x = y := by
  refine ⟨fun same => ?_, fun same => by rw [same]⟩
  obtain ⟨⟨_, _⟩⟩ := x
  obtain ⟨⟨_, _⟩⟩ := y
  cases UInt32.toNat_inj.mp same
  rfl

theorem wholeChars_inj {m n : Int} : wholeChars m = wholeChars n ↔ m = n := by
  refine ⟨fun same => ?_, fun same => by rw [same]⟩
  have unsigned (k : Nat) (rest : List Char) : countChars k ≠ '-' :: rest := fun chars => by
    have digit := allDigits_countChars k '-' (by rw [chars]; exact List.mem_cons_self)
    cases digit
  have equal {k l : Nat} (chars : countChars k = countChars l) : k = l := by
    rw [← natural_countChars k, chars, natural_countChars]
  unfold wholeChars at same
  split_ifs at same
  · have sizes := equal (List.cons.inj same).2
    omega
  · exact absurd same.symm (unsigned _ _)
  · exact absurd same (unsigned _ _)
  · have sizes := equal same
    omega

end StreamPlan.Decimal
