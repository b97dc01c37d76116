import StreamPlan.Proofs.Rounding

/-! Floating-point words that are not a number. Packing, rounding and the change from single to double keep
them apart from all others, and no whole number is converted to one. -/
namespace StreamPlan.Decimal
open Float.Model

theorem ofNat_ne_neg_one {n k : Nat} (small : k + 1 < 2 ^ n) : BitVec.ofNat n k ≠ -1#n := by
  intro same
  have values := congrArg BitVec.toNat same
  rw [BitVec.neg_one_eq_allOnes, BitVec.toNat_allOnes, BitVec.toNat_ofNat, Nat.mod_eq_of_lt (by omega)] at values
  omega

theorem isNaN_dite {p : Prop} [Decidable p] {f : p → UnpackedFloat} {g : ¬p → UnpackedFloat}
    (held : ∀ h, (f h).isNaN = false) (failed : ∀ h, (g h).isNaN = false) : (dite p f g).isNaN = false := by
  by_cases h : p
  · rw [dif_pos h]
    exact held h
  · rw [dif_neg h]
    exact failed h

theorem isNaN_ite {p : Prop} [Decidable p] {f g : UnpackedFloat}
    (held : f.isNaN = false) (failed : g.isNaN = false) : (ite p f g).isNaN = false := by
  split
  · exact held
  · exact failed

section
variable {spec : Format}

theorem isNaN_unpack (b : BitVec spec.numBits) :
    (UnpackedFloat.unpack spec b).isNaN = true ↔
      UnpackedFloat.unpackExponent b = -1#(spec.exponentBits) ∧
        UnpackedFloat.unpackMantissa b ≠ 0#(spec.mantissaBitsWithoutImplicit) := by
  unfold UnpackedFloat.unpack
  dsimp only
  by_cases top : UnpackedFloat.unpackExponent b = -1#(spec.exponentBits)
  · rw [if_pos top]
    by_cases zero : UnpackedFloat.unpackMantissa b = 0#(spec.mantissaBitsWithoutImplicit)
    · rw [if_pos zero]
      exact iff_of_false Bool.noConfusion fun both => both.2 zero
    · rw [if_neg zero]
      exact iff_of_true rfl ⟨top, zero⟩
  · rw [if_neg top, isNaN_ite (isNaN_dite (fun _ => rfl) fun _ => rfl) rfl]
    exact iff_of_false Bool.noConfusion fun both => top both.1

theorem isNaN_packComponents (sign : UnpackedFloat.Sign) (exponent : BitVec spec.exponentBits)
    (mantissa : BitVec spec.mantissaBitsWithoutImplicit) :
    (UnpackedFloat.unpack spec (UnpackedFloat.packComponents spec sign exponent mantissa)).isNaN = true ↔
      exponent = -1#(spec.exponentBits) ∧ mantissa ≠ 0#(spec.mantissaBitsWithoutImplicit) := by
  rw [isNaN_unpack, UnpackedFloat.unpackExponent_packComponents, UnpackedFloat.unpackMantissa_packComponents]

theorem isNaN_pack (f : UnpackedFloat) :
    (UnpackedFloat.unpack spec (UnpackedFloat.pack spec f)).isNaN = f.isNaN := by
  have zero : 0#(spec.exponentBits) ≠ -1#(spec.exponentBits) := ofNat_ne_neg_one (Nat.one_lt_two_pow spec.he.ne')
  rw [Bool.eq_iff_iff]
  cases f with
  | notANumber =>
    have quiet : 1#(spec.mantissaBitsWithoutImplicit) <<< (spec.mantissaBitsWithoutImplicit - 1) ≠ 0#_ := by
      intro same
      have bit := congrArg (fun b => b.getLsbD (spec.mantissaBitsWithoutImplicit - 1)) same
      simp [spec.hm] at bit
    exact iff_of_true ((isNaN_packComponents _ _ _).mpr ⟨rfl, quiet⟩) rfl
  | infinity sign =>
    exact iff_of_false (fun packed => ((isNaN_packComponents _ _ _).mp packed).2 rfl) Bool.noConfusion
  | zero sign =>
    exact iff_of_false (fun packed => zero ((isNaN_packComponents _ _ _).mp packed).1) Bool.noConfusion
  | finite sign mantissa exponent positive =>
    refine iff_of_false ?_ Bool.noConfusion
    unfold UnpackedFloat.pack
    dsimp only
    split
    · exact fun packed => ((isNaN_packComponents _ _ _).mp packed).2 rfl
    · split
      · exact fun packed => ofNat_ne_neg_one (by omega) ((isNaN_packComponents _ _ _).mp packed).1
      · exact fun packed => zero ((isNaN_packComponents _ _ _).mp packed).1

theorem isNaN_roundWithAccuracy (sign : UnpackedFloat.Sign) (mantissa : Nat) (exponent : Int)
    (accuracy : UnpackedFloat.Accuracy) :
    (UnpackedFloat.roundWithAccuracy spec sign mantissa exponent accuracy).isNaN = false := by
  unfold UnpackedFloat.roundWithAccuracy
  exact isNaN_dite (fun _ => rfl) fun _ => rfl

theorem isNaN_normalize (mantissa exponent : Int) (sign : UnpackedFloat.Sign) :
    (UnpackedFloat.normalize spec mantissa exponent sign).isNaN = false := by
  unfold UnpackedFloat.normalize
  split
  · exact isNaN_roundWithAccuracy _ _ _ _
  · rfl
  · exact isNaN_roundWithAccuracy _ _ _ _

theorem isNaN_mul_finite {f : UnpackedFloat} (number : f.isNaN = false) (sign : UnpackedFloat.Sign) (mantissa : Nat)
    (exponent : Int) (positive : 0 < mantissa) :
    (UnpackedFloat.mul spec f (.finite sign mantissa exponent positive)).isNaN = false := by
  cases f with
  | notANumber => cases number
  | infinity | zero => rfl
  | finite => exact isNaN_roundWithAccuracy _ _ _ _

theorem isNaN_neg (f : UnpackedFloat) : f.neg.isNaN = f.isNaN := by
  cases f <;> rfl

end

theorem isNaN_ofNat (n : Nat) : (Float.ofNat n).isNaN = false := by
  change (Float.ofScientific n false 0).isNaN = false
  unfold Float.ofScientific
  -- small numbers are converted as they are and multiplied by one, the others are rounded from their digits
  split
  · have one : Float.exactlyRepresentablePowersOfTen[0].toModel.unpack =
        .finite .positive (2 ^ 52) (-52) (by decide) := rfl
    have whole : n.toUInt64.toFloat.toModel.unpack.isNaN = false :=
      (isNaN_pack _).trans (isNaN_normalize _ _ _)
    refine (isNaN_pack (UnpackedFloat.mul Format.binary64 n.toUInt64.toFloat.toModel.unpack
      Float.exactlyRepresentablePowersOfTen[0].toModel.unpack)).trans ?_
    rw [one]
    exact isNaN_mul_finite whole _ _ _ _
  · refine (isNaN_pack (UnpackedFloat.ofScientific Format.binary64 n 0)).trans ?_
    unfold UnpackedFloat.ofScientific
    refine isNaN_dite (fun _ => rfl) fun _ => isNaN_ite rfl (isNaN_ite rfl ?_)
    rw [if_pos (Int.le_refl 0)]
    exact isNaN_mul_finite rfl _ _ _ _

theorem isNaN_ofInt (n : Int) : (Float.ofInt n).isNaN = false := by
  cases n with
  | ofNat n => exact isNaN_ofNat n
  | negSucc n => exact (isNaN_pack _).trans ((isNaN_neg _).trans (isNaN_ofNat n.succ))

section
variable {spec : Format}

def widthOf (spec : Format) : Width := ⟨spec.mantissaBitsWithoutImplicit, spec.exponentBits⟩

theorem toNat_unpackExponent (b : BitVec spec.numBits) :
    (UnpackedFloat.unpackExponent b).toNat =
      b.toNat / twoTo spec.mantissaBitsWithoutImplicit % twoTo spec.exponentBits := by
  have some_bit := spec.he
  have length : spec.mantissaBitsWithoutImplicit + spec.exponentBits - 1 - spec.mantissaBitsWithoutImplicit + 1 =
      spec.exponentBits := by omega
  simp only [UnpackedFloat.unpackExponent, BitVec.toNat_cast, BitVec.extractLsb_toNat, length,
    Nat.shiftRight_eq_div_pow]
  rfl

theorem toNat_unpackMantissa (b : BitVec spec.numBits) :
    (UnpackedFloat.unpackMantissa b).toNat = b.toNat % twoTo spec.mantissaBitsWithoutImplicit := by
  have some_bit := spec.hm
  have length : spec.mantissaBitsWithoutImplicit - 1 - 0 + 1 = spec.mantissaBitsWithoutImplicit := by omega
  simp only [UnpackedFloat.unpackMantissa, BitVec.toNat_cast, BitVec.extractLsb_toNat, length, Nat.shiftRight_zero]
  rfl

theorem read_eq_notANumber {w : Width} {word : Nat} : w.read word = .notANumber ↔
    word / twoTo w.fractionBits % twoTo w.exponentBits = w.top ∧ word % twoTo w.fractionBits ≠ 0 := by
  unfold Width.read
  dsimp only
  split_ifs <;> simp_all

theorem isNaN_unpack_iff_read (b : BitVec spec.numBits) :
    (UnpackedFloat.unpack spec b).isNaN = true ↔ (widthOf spec).read b.toNat = .notANumber := by
  rw [isNaN_unpack, read_eq_notANumber, ← BitVec.toNat_inj, ne_eq, ← BitVec.toNat_inj, toNat_unpackExponent,
    toNat_unpackMantissa, BitVec.neg_one_eq_allOnes, BitVec.toNat_allOnes, BitVec.toNat_ofNat, Nat.zero_mod]
  rfl

end

theorem magnitude_le (w : Width) (mantissa : Nat) (power : Int) : w.magnitude mantissa power ≤ w.infinity := by
  unfold Width.magnitude
  split
  · exact Nat.zero_le _
  · exact Nat.min_le_right _ _

theorem infinity_double : double.infinity = 9218868437227405312 := rfl
theorem signBit_double : double.signBit = 9223372036854775808 := rfl

theorem write_double_lt (reading : Reading) : double.write reading < 2 ^ 64 := by
  cases reading with
  | notANumber => decide
  | infinite negative =>
    rw [Width.write, infinity_double, signBit_double]
    split <;> omega
  | finite negative mantissa power narrow =>
    have most := magnitude_le double mantissa power
    rw [infinity_double] at most
    rw [Width.write, signBit_double]
    split <;> omega

/-- A double that was written is not a number exactly where its reading was none. -/
theorem read_write_double {reading : Reading} :
    double.read (double.write reading) = .notANumber ↔ reading = .notANumber := by
  cases reading with
  | notANumber => exact iff_of_true rfl rfl
  | infinite negative => cases negative <;> exact iff_of_false (by decide) (by decide)
  | finite negative mantissa power narrow =>
    refine iff_of_false ?_ Reading.noConfusion
    have most := magnitude_le double mantissa power
    have fraction : twoTo double.fractionBits = 4503599627370496 := rfl
    have field : twoTo double.exponentBits = 2048 := rfl
    have top : double.top = 2047 := rfl
    rw [infinity_double] at most
    rw [read_eq_notANumber, Width.write, signBit_double, fraction, field, top]
    split <;> omega

theorem isNaN_widen (x : Float32) : (widen x).isNaN = x.isNaN := by
  have word : (UInt64.ofNat (double.write (readSingle x))).toBitVec.toNat = double.write (readSingle x) :=
    Nat.mod_eq_of_lt (write_double_lt _)
  have single : x.isNaN = true ↔ readSingle x = .notANumber :=
    @isNaN_unpack_iff_read .binary32 x.toBits.toBitVec
  have widened : (widen x).isNaN = true ↔ double.read (double.write (readSingle x)) = .notANumber := by
    rw [← word]
    exact (Bool.eq_iff_iff.mp (isNaN_pack _)).trans (@isNaN_unpack_iff_read .binary64 _)
  rw [Bool.eq_iff_iff, widened, single]
  exact read_write_double

end StreamPlan.Decimal
