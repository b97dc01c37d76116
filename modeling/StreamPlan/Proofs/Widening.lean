import StreamPlan.Proofs.DecimalTexts
import StreamPlan.Proofs.NotANumber

/-! Singles as doubles. A finite single is written as the double that is worth the same, and this is rounded
back to the single it came from. What is worth the same is written alike, however it is shared out between
mantissa and power. -/
namespace StreamPlan.Decimal

theorem roundShift_mul (mantissa shift more : Nat) :
    Width.roundShift (mantissa * twoTo more) (shift + more) = Width.roundShift mantissa shift := by
  have unit : 0 < twoTo more := Nat.two_pow_pos more
  have split : twoTo (shift + more) = twoTo shift * twoTo more := Nat.pow_add _ _ _
  have doubled : 2 * (mantissa % twoTo shift * twoTo more) = 2 * (mantissa % twoTo shift) * twoTo more :=
    (Nat.mul_assoc _ _ _).symm
  unfold Width.roundShift
  dsimp only
  rw [split, Nat.mul_div_mul_right _ _ unit, Nat.mul_mod_mul_right, doubled]
  simp only [Nat.mul_lt_mul_right unit]

theorem roundShift_exact (mantissa shift : Nat) : Width.roundShift (mantissa * twoTo shift) shift = mantissa := by
  have whole := roundShift_mul mantissa 0 shift
  rw [Nat.zero_add] at whole
  rw [whole]
  simp [Width.roundShift, twoTo, Nat.mod_one]

theorem log2_mul_twoTo {mantissa : Nat} (some_mantissa : mantissa ≠ 0) (more : Nat) :
    Nat.log2 (mantissa * twoTo more) = Nat.log2 mantissa + more := by
  have unit : 0 < twoTo more := Nat.two_pow_pos more
  rw [Nat.log2_eq_iff (Nat.mul_ne_zero some_mantissa unit.ne'), Nat.pow_add, Nat.add_right_comm, Nat.pow_add]
  exact ⟨Nat.mul_le_mul_right _ (Nat.log2_self_le some_mantissa), Nat.mul_lt_mul_of_pos_right Nat.lt_log2_self unit⟩

namespace Width

variable {w : Width} {mantissa : Nat} {power : Int}

/-- The mantissa under another power, rounded where that is the greater one. -/
def underPower (mantissa : Nat) (power unit : Int) : Nat :=
  if unit ≤ power then mantissa * twoTo (power - unit).toNat else roundShift mantissa (unit - power).toNat

theorem underPower_shifted (mantissa : Nat) (power unit : Int) (more : Nat) :
    underPower (mantissa * twoTo more) (power - more) unit = underPower mantissa power unit := by
  unfold underPower
  -- the unit lies at the point or left of it, or the point is moved past it, or it has been past it all along
  by_cases inside : unit ≤ power - more
  · have places : (power - unit).toNat = more + (power - more - unit).toNat := by omega
    have split : twoTo (more + (power - more - unit).toNat) = twoTo more * twoTo (power - more - unit).toNat :=
      Nat.pow_add _ _ _
    rw [if_pos inside, if_pos (by omega), places, split, Nat.mul_assoc]
  · rw [if_neg inside]
    by_cases before : unit ≤ power
    · obtain ⟨kept, rfl⟩ : ∃ kept : Nat, unit = power - kept := ⟨(power - unit).toNat, by omega⟩
      obtain ⟨lost, rfl⟩ : ∃ lost : Nat, more = kept + lost := ⟨more - kept, by omega⟩
      have past : (power - kept - (power - (kept + lost : Nat))).toNat = lost := by omega
      have left : (power - (power - kept)).toNat = kept := by omega
      have split : twoTo (kept + lost) = twoTo kept * twoTo lost := Nat.pow_add _ _ _
      rw [if_pos before, past, left, split, ← Nat.mul_assoc, roundShift_exact]
    · have places : (unit - (power - more)).toNat = (unit - power).toNat + more := by omega
      rw [if_neg before, places, roundShift_mul]

theorem magnitude_shifted (w : Width) (mantissa : Nat) (power : Int) (more : Nat) :
    w.magnitude (mantissa * twoTo more) (power - more) = w.magnitude mantissa power := by
  have unit : twoTo more ≠ 0 := (Nat.two_pow_pos more).ne'
  by_cases zero : mantissa = 0
  · simp [magnitude, zero]
  · have same : power - more + (Nat.log2 mantissa + more : Nat) = power + Nat.log2 mantissa := by omega
    have scaled := underPower_shifted mantissa power (max (power + Nat.log2 mantissa - w.fractionBits) w.lowest) more
    unfold underPower at scaled
    unfold magnitude
    dsimp only
    rw [if_neg zero, if_neg (Nat.mul_ne_zero zero unit), log2_mul_twoTo zero, same, scaled]

theorem magnitude_canonical (canonical : w.Canonical mantissa power) :
    w.magnitude mantissa power = min ((power - w.lowest).toNat * twoTo w.fractionBits + mantissa) w.infinity := by
  by_cases zero : mantissa = 0
  · subst zero
    rw [canonical.least_of_zero]
    simp [magnitude]
  · have length : Nat.log2 mantissa < w.fractionBits + 1 := by
      rw [Nat.log2_lt zero, Nat.pow_succ, Nat.mul_comm]
      exact canonical.short
    have unit : max (power + Nat.log2 mantissa - w.fractionBits) w.lowest = power := by
      rcases (canonical.least).lt_or_eq with raised | least
      · have full : w.fractionBits ≤ Nat.log2 mantissa := (Nat.le_log2 zero).mpr (canonical.full raised)
        omega
      · omega
    unfold magnitude
    rw [if_neg zero, unit]
    simp [twoTo]

/-- The parts of a word below infinity. -/
theorem read_signed (w : Width) (negative : Bool) {rest : Nat} (below : rest < w.infinity) :
    let fraction := rest % twoTo w.fractionBits
    let field := rest / twoTo w.fractionBits
    w.read ((if negative then w.signBit else 0) + rest) =
      if field = 0 then .finite negative fraction w.lowest false
      else .finite negative (twoTo w.fractionBits + fraction) (w.lowest + field - 1)
        (decide (fraction = 0 ∧ 1 < field)) := by
  have unit : 0 < twoTo w.fractionBits := Nat.two_pow_pos _
  have fields : 0 < twoTo w.exponentBits := Nat.two_pow_pos _
  have signBit : w.signBit = twoTo w.fractionBits * twoTo w.exponentBits := Nat.pow_add _ _ _
  have field_lt : rest / twoTo w.fractionBits < w.top := Nat.div_lt_of_lt_mul (by rwa [Nat.mul_comm])
  have top_lt : w.top < twoTo w.exponentBits := Nat.sub_lt fields Nat.one_pos
  have rest_lt : rest < w.signBit := by
    rw [signBit]
    exact (Nat.div_lt_iff_lt_mul unit).mp (field_lt.trans top_lt) |>.trans_eq (Nat.mul_comm _ _)
  have fraction : ((if negative then w.signBit else 0) + rest) % twoTo w.fractionBits =
      rest % twoTo w.fractionBits := by
    cases negative <;> simp [signBit]
  have field : ((if negative then w.signBit else 0) + rest) / twoTo w.fractionBits % twoTo w.exponentBits =
      rest / twoTo w.fractionBits := by
    have small := Nat.mod_eq_of_lt (field_lt.trans top_lt)
    cases negative
    · simp [small]
    · simp [signBit, Nat.mul_add_div unit, small]
  have sign : decide (((if negative then w.signBit else 0) + rest) / w.signBit % 2 = 1) = negative := by
    have none := Nat.div_eq_of_lt rest_lt
    have one : 0 < w.signBit := (Nat.zero_le rest).trans_lt rest_lt
    cases negative
    · simp [none]
    · simp [Nat.add_div_left _ one, none]
  unfold read
  dsimp only
  rw [fraction, field, sign, if_neg field_lt.ne]

/-- Below infinity a magnitude is read as it was written. -/
theorem read_written (canonical : w.Canonical mantissa power)
    (below : (power - w.lowest).toNat * twoTo w.fractionBits + mantissa < w.infinity) (negative : Bool) :
    w.read ((if negative then w.signBit else 0) + ((power - w.lowest).toNat * twoTo w.fractionBits + mantissa)) =
      .finite negative mantissa power (w.isNarrow mantissa power) := by
  obtain ⟨short, least, full⟩ := canonical
  obtain ⟨places, rfl⟩ : ∃ places : Nat, power = w.lowest + places := ⟨(power - w.lowest).toNat, by omega⟩
  have taken : (w.lowest + places - w.lowest).toNat = places := by omega
  have unit : 0 < twoTo w.fractionBits := Nat.two_pow_pos _
  rw [taken] at below ⊢
  rw [read_signed w negative below]
  by_cases long : twoTo w.fractionBits ≤ mantissa
  · -- the leading bit of a mantissa of full length counts as one more place
    obtain ⟨rest, rfl⟩ := Nat.exists_eq_add_of_le long
    have small : rest < twoTo w.fractionBits := by omega
    have moved : places * twoTo w.fractionBits + (twoTo w.fractionBits + rest) =
        rest + twoTo w.fractionBits * (places + 1) := by ring
    rw [moved, Nat.add_mul_mod_self_left, Nat.add_mul_div_left _ _ unit, Nat.mod_eq_of_lt small,
      Nat.div_eq_of_lt small]
    simp [isNarrow]
    omega
  · have none : places = 0 := by
      by_contra some_place
      exact long (full (by omega))
    subst none
    have small : mantissa < twoTo w.fractionBits := Nat.not_le.mp long
    simp [Nat.mod_eq_of_lt small, Nat.div_eq_of_lt small, isNarrow]

theorem lt_infinity_of_read {word : Nat} {negative narrow : Bool}
    (read : w.read word = .finite negative mantissa power narrow) :
    word % w.signBit < w.infinity := by
  have unit : 0 < twoTo w.fractionBits := Nat.two_pow_pos _
  have fields : 0 < twoTo w.exponentBits := Nat.two_pow_pos _
  have top : w.top + 1 = twoTo w.exponentBits := Nat.sub_add_cancel fields
  have field_lt : word / twoTo w.fractionBits % twoTo w.exponentBits < twoTo w.exponentBits := Nat.mod_lt _ fields
  have fraction_lt : word % twoTo w.fractionBits < twoTo w.fractionBits := Nat.mod_lt _ unit
  rw [mod_signBit, infinity]
  unfold Width.read at read
  dsimp only at read
  split at read
  · split at read <;> cases read
  · rename_i below
    have field_le : word / twoTo w.fractionBits % twoTo w.exponentBits + 1 ≤ w.top := by omega
    have bound := Nat.mul_le_mul_right (twoTo w.fractionBits) field_le
    rw [Nat.succ_mul] at bound
    omega

/-- A number that is no less than the lowest of a width can be shared out the way the width keeps it. -/
theorem exists_canonical (w : Width) (some_mantissa : mantissa ≠ 0) (short : mantissa < 2 * twoTo w.fractionBits)
    (least : w.lowest ≤ power) : ∃ more : Nat, w.Canonical (mantissa * twoTo more) (power - more) := by
  have length : Nat.log2 mantissa < w.fractionBits + 1 := by
    rw [Nat.log2_lt some_mantissa, Nat.pow_succ']
    exact short
  obtain ⟨more, fits⟩ : ∃ more, more = min (w.fractionBits - Nat.log2 mantissa) (power - w.lowest).toNat := ⟨_, rfl⟩
  have longer := log2_mul_twoTo some_mantissa more
  have some_longer : mantissa * twoTo more ≠ 0 := Nat.mul_ne_zero some_mantissa (Nat.two_pow_pos more).ne'
  refine ⟨more, ?_, by omega, fun raised => ?_⟩
  · have bound : Nat.log2 (mantissa * twoTo more) < w.fractionBits + 1 := by omega
    rw [Nat.log2_lt some_longer, Nat.pow_succ'] at bound
    exact bound
  · have bound : w.fractionBits ≤ Nat.log2 (mantissa * twoTo more) := by omega
    exact (Nat.le_log2 some_longer).mp bound

end Width

open Float.Model

section
variable {spec : Format}

theorem packComponents_unpacked (b : BitVec spec.numBits) :
    UnpackedFloat.packComponents spec (UnpackedFloat.Sign.ofBitVec (UnpackedFloat.unpackSign b))
      (UnpackedFloat.unpackExponent b) (UnpackedFloat.unpackMantissa b) = b := by
  have sign : (UnpackedFloat.Sign.ofBitVec (UnpackedFloat.unpackSign b)).toBitVec = UnpackedFloat.unpackSign b := by
    generalize UnpackedFloat.unpackSign b = bit
    revert bit
    decide
  unfold UnpackedFloat.packComponents
  rw [sign]
  apply BitVec.eq_of_getLsbD_eq
  intro i bound
  have someMantissa := spec.hm
  have someExponent := spec.he
  have signBit : UnpackedFloat.unpackSign b = BitVec.cast (by omega) (BitVec.extractLsb
      (spec.mantissaBitsWithoutImplicit + spec.exponentBits)
      (spec.mantissaBitsWithoutImplicit + spec.exponentBits) b) := rfl
  simp only [BitVec.getLsbD_append, signBit, UnpackedFloat.unpackExponent, UnpackedFloat.unpackMantissa,
    BitVec.getLsbD_cast, BitVec.getLsbD_extractLsb]
  split_ifs with low middle
  · have inside : i < spec.mantissaBitsWithoutImplicit - 1 + 1 := by omega
    simp [inside]
  · have place : spec.mantissaBitsWithoutImplicit + (i - spec.mantissaBitsWithoutImplicit) = i := by omega
    have inside : i - spec.mantissaBitsWithoutImplicit < spec.mantissaBitsWithoutImplicit + spec.exponentBits - 1 -
        spec.mantissaBitsWithoutImplicit + 1 := by omega
    simp [place, inside]
  · have place : i = spec.mantissaBitsWithoutImplicit + spec.exponentBits := by omega
    simp [place]

theorem pack_subnormal (wide : 1 < spec.exponentBits) (sign : UnpackedFloat.Sign)
    (mantissa : BitVec spec.mantissaBitsWithoutImplicit) (positive : 0 < mantissa.toNat) :
    UnpackedFloat.pack spec (.finite sign mantissa.toNat
      (((0#(spec.exponentBits)).toNat : Int) - (spec.exponentBias + spec.mantissaBitsWithoutImplicit) + 1) positive) =
      UnpackedFloat.packComponents spec sign 0#_ mantissa := by
  have fields : 2 ^ 2 ≤ 2 ^ spec.exponentBits := Nat.pow_le_pow_right Nat.two_pos wide
  have short : Nat.log2 mantissa.toNat < spec.mantissaBitsWithoutImplicit :=
    (Nat.log2_lt positive.ne').mpr mantissa.isLt
  unfold UnpackedFloat.pack
  dsimp only
  rw [if_neg, if_neg, BitVec.ofNat_toNat, BitVec.setWidth_eq]
  · have places : spec.mantissaBits = 1 + spec.mantissaBitsWithoutImplicit := rfl
    omega
  · rw [BitVec.toNat_ofNat, Nat.zero_mod]
    omega

theorem pack_normal (sign : UnpackedFloat.Sign) {exponent : BitVec spec.exponentBits}
    (below : exponent ≠ -1#(spec.exponentBits)) (mantissa : BitVec spec.mantissaBitsWithoutImplicit)
    (positive : 0 < (1#1 ++ mantissa).toNat) :
    UnpackedFloat.pack spec (.finite sign (1#1 ++ mantissa).toNat
      ((exponent.toNat : Int) - (spec.exponentBias + spec.mantissaBitsWithoutImplicit)) positive) =
      UnpackedFloat.packComponents spec sign exponent mantissa := by
  have long : (1#1 ++ mantissa).toNat = 2 ^ spec.mantissaBitsWithoutImplicit + mantissa.toNat := by
    rw [BitVec.toNat_append, ← Nat.shiftLeft_add_eq_or_of_lt mantissa.isLt]
    simp [Nat.shiftLeft_eq]
  have length : Nat.log2 (1#1 ++ mantissa).toNat = spec.mantissaBitsWithoutImplicit := by
    have bound := mantissa.isLt
    rw [Nat.log2_eq_iff positive.ne', long, Nat.pow_succ]
    omega
  have field : exponent.toNat + 1 < 2 ^ spec.exponentBits := by
    have bound := exponent.isLt
    by_contra top
    apply below
    rw [← BitVec.toNat_inj, BitVec.neg_one_eq_allOnes, BitVec.toNat_allOnes]
    omega
  have biased : ((exponent.toNat : Int) - (spec.exponentBias + spec.mantissaBitsWithoutImplicit) +
      spec.exponentBias + spec.mantissaBitsWithoutImplicit).toNat = exponent.toNat := by omega
  unfold UnpackedFloat.pack
  dsimp only
  have places : spec.mantissaBits = 1 + spec.mantissaBitsWithoutImplicit := rfl
  rw [biased, length, if_neg (by omega), if_pos (by omega)]
  rw [BitVec.ofNat_toNat, BitVec.ofNat_toNat, BitVec.setWidth_eq, BitVec.setWidth_append_eq_right]

theorem pack_unpack (wide : 1 < spec.exponentBits) {b : BitVec spec.numBits}
    (number : (UnpackedFloat.unpack spec b).isNaN = false) :
    UnpackedFloat.pack spec (UnpackedFloat.unpack spec b) = b := by
  have parts := packComponents_unpacked b
  unfold UnpackedFloat.unpack at number ⊢
  dsimp only at number ⊢
  by_cases top : UnpackedFloat.unpackExponent b = -1#(spec.exponentBits)
  · rw [if_pos top] at number ⊢
    by_cases zero : UnpackedFloat.unpackMantissa b = 0#(spec.mantissaBitsWithoutImplicit)
    · rw [if_pos zero]
      rw [top, zero] at parts
      exact parts
    · rw [if_neg zero] at number
      cases number
  · rw [if_neg top]
    by_cases least : UnpackedFloat.unpackExponent b = 0#(spec.exponentBits)
    · rw [if_pos least]
      by_cases zero : UnpackedFloat.unpackMantissa b = 0#(spec.mantissaBitsWithoutImplicit)
      · rw [dif_pos zero]
        rw [least, zero] at parts
        exact parts
      · rw [dif_neg zero]
        rw [least] at parts ⊢
        exact (pack_subnormal wide _ _ _).trans parts
    · rw [if_neg least]
      exact (pack_normal _ top _ _).trans parts

end

theorem readDouble_ofBits {word : Nat} (bound : word < 2 ^ 64) (number : double.read word ≠ .notANumber) :
    readDouble (Float.ofBits (UInt64.ofNat word)) = double.read word := by
  have value : (UInt64.ofNat word).toBitVec.toNat = word := Nat.mod_eq_of_lt bound
  have known : (UnpackedFloat.unpack .binary64 (UInt64.ofNat word).toBitVec).isNaN = false := by
    rw [Bool.eq_false_iff, ne_eq, isNaN_unpack_iff_read, value]
    exact number
  have same := congrArg BitVec.toNat (pack_unpack (by decide) known)
  rw [value] at same
  exact congrArg double.read same

theorem ofBits_toBits {x : Float32} (number : readSingle x ≠ .notANumber) : Float32.ofBits x.toBits = x := by
  have known : (UnpackedFloat.unpack .binary32 x.toBits.toBitVec).isNaN = false := by
    rw [Bool.eq_false_iff, ne_eq, isNaN_unpack_iff_read]
    exact number
  exact single_eq_iff.mp (congrArg BitVec.toNat (pack_unpack (by decide) known))

section
variable {x : Float32} {negative narrow : Bool} {mantissa : Nat} {power : Int}

theorem toBits_of_read (read : readSingle x = .finite negative mantissa power narrow) :
    x.toBits.toNat = (if negative then single.signBit else 0) +
      ((power - single.lowest).toNat * twoTo single.fractionBits + mantissa) := by
  obtain ⟨sign, _, _, rest⟩ := Width.read_eq_finite read
  have bound : x.toBits.toNat < 2 * single.signBit := x.toBits.toNat_lt
  have half : x.toBits.toNat / single.signBit < 2 := Nat.div_lt_of_lt_mul (by omega)
  have high : single.signBit * (x.toBits.toNat / single.signBit) = if negative then single.signBit else 0 := by
    rw [sign]
    generalize x.toBits.toNat / single.signBit = bit at half
    rcases Nat.lt_succ_iff_lt_or_eq.mp half with none | rfl
    · rw [Nat.lt_one_iff.mp none]
      rfl
    · rfl
  rw [← rest, ← high, Nat.div_add_mod]

theorem widened_lt_infinity (below : (power - single.lowest).toNat * twoTo single.fractionBits + mantissa <
    single.infinity) (more : Nat) {wide : Nat} (short : wide < 2 * twoTo double.fractionBits) :
    (power - more - double.lowest).toNat * twoTo double.fractionBits + wide < double.infinity := by
  have lowests : single.lowest = -149 ∧ double.lowest = -1074 := ⟨rfl, rfl⟩
  have unit : twoTo single.fractionBits = 8388608 := rfl
  have top : single.infinity = 2139095040 := rfl
  rw [lowests.1, unit, top] at below
  rw [lowests.2]
  have places : (power - more - -1074).toNat ≤ 1179 := by omega
  calc (power - more - -1074).toNat * twoTo double.fractionBits + wide
      < 1179 * twoTo double.fractionBits + 2 * twoTo double.fractionBits :=
        Nat.add_lt_add_of_le_of_lt (Nat.mul_le_mul_right _ places) short
    _ ≤ double.infinity := by decide

/-- The double a single is written as is worth the same. -/
theorem write_double_of_read (read : readSingle x = .finite negative mantissa power narrow) :
    ∃ (same : Nat) (lower : Int) (also : Bool), double.read (double.write (.finite negative mantissa power narrow)) =
        .finite negative same lower also ∧ single.magnitude same lower = single.magnitude mantissa power := by
  obtain ⟨_, canonical, _, rest⟩ := Width.read_eq_finite read
  have below := Width.lt_infinity_of_read read
  rw [rest] at below
  by_cases zero : mantissa = 0
  · subst zero
    have none : double.magnitude 0 power = 0 := if_pos rfl
    refine ⟨0, double.lowest, false, ?_, by simp [Width.magnitude]⟩
    rw [Width.write, none]
    cases negative <;> decide
  · have lowest : double.lowest ≤ power := (by decide : double.lowest ≤ single.lowest).trans canonical.least
    have short : mantissa < 2 * twoTo double.fractionBits := canonical.short.trans (by decide)
    obtain ⟨more, fits⟩ := double.exists_canonical zero short lowest
    have finite := widened_lt_infinity below more fits.short
    refine ⟨mantissa * twoTo more, power - more, double.isNarrow (mantissa * twoTo more) (power - more), ?_,
      single.magnitude_shifted mantissa power more⟩
    rw [Width.write, ← double.magnitude_shifted mantissa power more, Width.magnitude_canonical fits,
      Nat.min_eq_left finite.le]
    exact Width.read_written fits finite negative

end

/-- A finite single is what is left of the double it was widened to. -/
theorem narrow_widen {x : Float32} (finite : (readSingle x).isFinite = true) : narrow (widen x) = x := by
  cases read : readSingle x with
  | notANumber | infinite =>
    rw [read] at finite
    cases finite
  | finite negative mantissa power small =>
    obtain ⟨_, canonical, _, rest⟩ := Width.read_eq_finite read
    have below := Width.lt_infinity_of_read read
    obtain ⟨same, lower, also, written, magnitude⟩ := write_double_of_read read
    have number : double.read (double.write (readSingle x)) ≠ .notANumber := by
      rw [read, written]
      exact Reading.noConfusion
    have widened : readDouble (widen x) = .finite negative same lower also := by
      rw [widen, readDouble_ofBits (write_double_lt _) number, read, written]
    have word : single.write (readDouble (widen x)) = x.toBits.toNat := by
      rw [widened, Width.write, magnitude, Width.magnitude_canonical canonical, ← rest, Nat.min_eq_left below.le, rest,
        toBits_of_read read]
    rw [Decimal.narrow, word, UInt32.ofNat_toNat]
    exact ofBits_toBits (by rw [read]; exact Reading.noConfusion)

end StreamPlan.Decimal
