import Baggage.Proofs.Arithmetic

/-!
# Baggage.Proofs.Decimal.Normal

**Whole numbers as doubles.** A whole number other than zero is read as a *normal* double, whose
mantissa has exactly 53 binary digits. Rounding gives such a number where there are digits enough to
round (`isNormal_roundWithAccuracy`), and packing keeps it while its exponent is not too great
(`IsNormal.unpack_pack`). The greatest exponent is therefore carried along from step to step; each
rounding adds one to it at most.

A normal double is finite, and above zero exactly if its sign is positive. So is every whole number
below `2 ^ 64` (`isFinite_toFloat_integer`, `zero_lt_toFloat_integer`).
-/

namespace Baggage.Decimal

open Float.Model (UnpackedFloat Format totalExponent)
open Float.Model.UnpackedFloat

/-- Whether an unpacked double has this sign, 53 digits, and an exponent up to `greatest`. -/
def IsNormal (sign : Sign) (greatest : ℤ) (u : UnpackedFloat) : Prop :=
  ∃ mantissa exponent pos, u = .finite sign mantissa exponent pos ∧ mantissa.log2 = 52 ∧
    -1074 ≤ exponent ∧ exponent ≤ greatest

variable {sign : Sign} {greatest : ℤ}

/-! ### Rounding -/

theorem mantissa_shiftRight (em : ExtendedMantissa) (n : ℕ) :
    (em >>> n).mantissa = em.mantissa / 2 ^ n := by
  induction n with
  | zero => simp [HShiftRight.hShiftRight, Nat.repeat]
  | succ n ih =>
      have hstep : (em >>> (n + 1)).mantissa = (em >>> n).mantissa / 2 := rfl
      rw [hstep, ih, Nat.div_div_eq_div_mul, pow_succ]

/-- Rounding adds at most one to the mantissa. -/
theorem roundedMantissa_bounds (em : ExtendedMantissa) :
    em.mantissa ≤ em.roundedMantissa ∧ em.roundedMantissa ≤ em.mantissa + 1 := by
  obtain ⟨mantissa, roundBit, stickyBit⟩ := em
  cases roundBit with
  | false => cases stickyBit <;> exact ⟨le_rfl, Nat.le_succ _⟩
  | true =>
      cases stickyBit with
      | false =>
          have hparity : mantissa % 2 < 2 := Nat.mod_lt _ Nat.two_pos
          exact ⟨Nat.le_add_right _ _, Nat.add_le_add_left (Nat.le_of_lt_succ hparity) _⟩
      | true => exact ⟨Nat.le_succ _, le_rfl⟩

theorem targetExponent_eq (mantissa : ℕ) (exponent : ℤ) :
    Format.binary64.targetExponent (totalExponent mantissa exponent)
      = max (mantissa.log2 + exponent - 52) (-1074) := by
  simp only [Format.targetExponent, totalExponent, Format.mantissaBits, Format.minExponent]
  norm_num
  omega

/-- A number with digits enough is cut down to 53 of them. -/
theorem shiftToTargetExponent_eq {mantissa shift : ℕ} (exponent : ℤ)
    (hlog : mantissa.log2 = 52 + shift) (hexponent : -1074 ≤ exponent + shift) :
    (shiftToTargetExponent .binary64 mantissa exponent .exact).1.mantissa = mantissa / 2 ^ shift ∧
      (shiftToTargetExponent .binary64 mantissa exponent .exact).2 = exponent + shift := by
  have htarget : Format.binary64.targetExponent (totalExponent mantissa exponent)
      = exponent + shift := by
    rw [targetExponent_eq, hlog]
    push_cast
    omega
  have hshift : (exponent + shift - exponent).toNat = shift := by omega
  simp only [shiftToTargetExponent, shiftToExponent, htarget, hshift, mantissa_shiftRight]
  exact ⟨rfl, trivial⟩

theorem log2_div_two_pow {n shift : ℕ} (h : n.log2 = 52 + shift) : (n / 2 ^ shift).log2 = 52 := by
  have hn : n ≠ 0 := by
    rintro rfl
    rw [Nat.log2_zero] at h
    omega
  obtain ⟨hlow, hhigh⟩ := (Nat.log2_eq_iff hn).mp h
  have hpos : 0 < 2 ^ shift := Nat.two_pow_pos shift
  have hquotient : 2 ^ 52 ≤ n / 2 ^ shift := by
    rw [Nat.le_div_iff_mul_le hpos, ← pow_add]
    exact hlow
  refine (Nat.log2_eq_iff (Nat.ne_of_gt (lt_of_lt_of_le (by norm_num) hquotient))).mpr
    ⟨hquotient, ?_⟩
  rw [Nat.div_lt_iff_lt_mul hpos, ← pow_add]
  exact lt_of_lt_of_eq hhigh (congrArg (2 ^ ·) (by omega))

/-- **Rounding gives a normal number** where there are 53 digits or more to round. -/
theorem isNormal_roundWithAccuracy (sign : Sign) {mantissa : ℕ} {exponent : ℤ}
    (hlog : 52 ≤ mantissa.log2) (hexponent : -1022 ≤ mantissa.log2 + exponent) :
    IsNormal sign (mantissa.log2 + exponent - 51)
      (roundWithAccuracy .binary64 sign mantissa exponent .exact) := by
  obtain ⟨shift, hshift⟩ := Nat.exists_eq_add_of_le hlog
  obtain ⟨hmantissa, hcut⟩ :=
    shiftToTargetExponent_eq exponent hshift (by omega)
  have hdigits := log2_div_two_pow hshift
  have hrounded :=
    roundedMantissa_bounds (shiftToTargetExponent .binary64 mantissa exponent .exact).1
  rw [hmantissa] at hrounded
  unfold roundWithAccuracy
  generalize hfirst : shiftToTargetExponent .binary64 mantissa exponent .exact = first at *
  obtain ⟨em, cut⟩ := first
  dsimp only at hcut hrounded ⊢
  subst hcut
  have hne : mantissa / 2 ^ shift ≠ 0 := by
    intro hzero
    rw [hzero] at hdigits
    simp at hdigits
  obtain ⟨hlow, hhigh⟩ := (Nat.log2_eq_iff hne).mp hdigits
  -- the carry of the rounding can add a digit, and then it is cut off again
  obtain ⟨carry, hcarry, hcarryLog⟩ :
      ∃ carry, carry ≤ 1 ∧ em.roundedMantissa.log2 = 52 + carry := by
    by_cases hfull : em.roundedMantissa = 2 ^ 53
    · exact ⟨1, le_rfl, by rw [hfull, Nat.log2_two_pow]⟩
    · exact ⟨0, Nat.zero_le 1, (Nat.log2_eq_iff (by omega)).mpr ⟨by omega, by omega⟩⟩
  obtain ⟨hfinal, hfinalExponent⟩ :=
    shiftToTargetExponent_eq (exponent + shift) hcarryLog (by omega)
  have hfinalLog := log2_div_two_pow hcarryLog
  rw [← hfinal] at hfinalLog
  have hfinalNe : (shiftToTargetExponent .binary64 em.roundedMantissa
      (exponent + shift) .exact).1.mantissa ≠ 0 := by
    intro hzero
    rw [hzero] at hfinalLog
    simp at hfinalLog
  rw [dif_neg hfinalNe]
  exact ⟨_, _, _, rfl, hfinalLog, by omega, by omega⟩

theorem log2_mul_two_pow {n : ℕ} (hn : n ≠ 0) (k : ℕ) : (n * 2 ^ k).log2 = n.log2 + k := by
  induction k with
  | zero => rw [pow_zero, mul_one, add_zero]
  | succ k ih =>
      have hstep : n * 2 ^ (k + 1) = 2 * (n * 2 ^ k) := by ring
      rw [hstep, Nat.log2_two_mul (Nat.mul_ne_zero hn (Nat.two_pow_pos k).ne'), ih, add_assoc]

/-- A whole number other than zero is rounded to a normal number. -/
theorem isNormal_round (sign : Sign) {n : ℕ} (hn : n ≠ 0) :
    IsNormal sign (n.log2 - 51) (UnpackedFloat.round .binary64 sign n 0) := by
  have htarget := targetExponent_eq n 0
  unfold UnpackedFloat.round decreaseExponent
  dsimp only
  rw [htarget]
  generalize hshift : (0 - max ((n.log2 : ℤ) + 0 - 52) (-1074)).toNat = shift
  have hlog : (n <<< shift).log2 = n.log2 + shift := by
    rw [Nat.shiftLeft_eq, log2_mul_two_pow hn]
  have hround : IsNormal sign ((n <<< shift).log2 + (0 - shift) - 51)
      (roundWithAccuracy .binary64 sign (n <<< shift) (0 - shift) .exact) :=
    isNormal_roundWithAccuracy sign (by omega) (by omega)
  rwa [hlog, show ((n.log2 + shift : ℕ) : ℤ) + (0 - shift) - 51 = n.log2 - 51 by omega] at hround

/-! ### Packing -/

@[simp] theorem unpackSign_packComponents {spec : Format} {exponent : BitVec spec.exponentBits}
    {mantissa : BitVec spec.mantissaBitsWithoutImplicit} :
    unpackSign (packComponents spec sign exponent mantissa) = sign.toBitVec := by
  ext i hi
  obtain rfl : i = 0 := by omega
  simp [unpackSign, packComponents, BitVec.getLsbD_append, BitVec.getElem_append]

theorem ofBitVec_toBitVec (sign : Sign) : Sign.ofBitVec sign.toBitVec = sign := by
  cases sign <;> rfl

/-- The mantissa is packed without its first digit, which is put back in front. -/
theorem toNat_append_ofNat {mantissa : ℕ} (h : mantissa.log2 = 52) :
    (1#1 ++ BitVec.ofNat 52 mantissa).toNat = mantissa := by
  have hne : mantissa ≠ 0 := by
    rintro rfl
    cases h
  obtain ⟨hlow, hhigh⟩ := (Nat.log2_eq_iff hne).mp h
  rw [BitVec.toNat_append, ← Nat.shiftLeft_add_eq_or_of_lt (BitVec.isLt _)]
  simp only [BitVec.toNat_ofNat, Nat.shiftLeft_eq]
  omega

/-- **Packing keeps a normal number** whose exponent is not too great. -/
theorem IsNormal.unpack_pack {u : UnpackedFloat} (h : IsNormal sign greatest u)
    (hgreatest : greatest ≤ 971) : (Float.Model.pack u).unpack = u := by
  obtain ⟨mantissa, exponent, pos, rfl, hlog, hleast, hexponent⟩ := h
  obtain ⟨biased, hbiased⟩ := Int.eq_ofNat_of_zero_le (a := exponent + 1075) (by omega)
  have hbounds : 0 < biased ∧ biased + 1 < 2048 := by omega
  have hsum : (exponent + 1023 + 52).toNat = biased := by omega
  have hpack : UnpackedFloat.pack .binary64 (.finite sign mantissa exponent pos)
      = packComponents .binary64 sign (BitVec.ofNat 11 biased) (BitVec.ofNat 52 mantissa) := by
    have hfits : ¬ 2048 ≤ biased + 1 := by omega
    unfold UnpackedFloat.pack
    simp only [Format.exponentBias, Format.mantissaBits, hlog]
    norm_num only
    rw [hsum, if_neg hfits, if_pos trivial]
  have hexponentBits : (BitVec.ofNat 11 biased).toNat = biased := by
    rw [BitVec.toNat_ofNat, Nat.mod_eq_of_lt (by omega)]
  have hfinite : BitVec.ofNat 11 biased ≠ -1#11 := by
    intro heq
    have hall := congrArg BitVec.toNat heq
    rw [hexponentBits] at hall
    have : biased = 2047 := hall
    omega
  have hnormal : BitVec.ofNat 11 biased ≠ 0#11 := by
    intro heq
    have hnone := congrArg BitVec.toNat heq
    rw [hexponentBits] at hnone
    have : biased = 0 := hnone
    omega
  unfold Float.Model.unpack Float.Model.pack
  dsimp only
  rw [hpack]
  unfold UnpackedFloat.unpack
  simp only [unpackExponent_packComponents, unpackMantissa_packComponents,
    unpackSign_packComponents, ofBitVec_toBitVec, hfinite, hnormal, if_false, hexponentBits,
    toNat_append_ofNat hlog]
  congr 1
  have hbias : Format.binary64.exponentBias = 1023 := rfl
  rw [hbias]
  omega

/-! ### Whole numbers -/

/-- A normal number stays normal when it is multiplied by one. -/
theorem IsNormal.mul_one {u : UnpackedFloat} (h : IsNormal sign greatest u) :
    IsNormal sign (greatest + 1)
      (UnpackedFloat.mul .binary64 u (.finite .positive (2 ^ 52) (-52) (Nat.two_pow_pos 52))) := by
  obtain ⟨mantissa, exponent, pos, rfl, hlog, hleast, hexponent⟩ := h
  have hmul : UnpackedFloat.mul .binary64 (.finite sign mantissa exponent pos)
      (.finite .positive (2 ^ 52) (-52) (Nat.two_pow_pos 52))
        = roundWithAccuracy .binary64 sign (mantissa * 2 ^ 52) (exponent + -52) .exact := by
    cases sign <;> rfl
  have hdigits : (mantissa * 2 ^ 52).log2 = 104 := by
    rw [log2_mul_two_pow pos.ne', hlog]
  have hround : IsNormal sign ((mantissa * 2 ^ 52).log2 + (exponent + -52) - 51)
      (roundWithAccuracy .binary64 sign (mantissa * 2 ^ 52) (exponent + -52) .exact) :=
    isNormal_roundWithAccuracy sign (by omega) (by omega)
  obtain ⟨mantissa', exponent', pos', hround, hlog', hleast', hexponent'⟩ := hround
  exact ⟨mantissa', exponent', pos', hmul.trans hround, hlog', hleast', by omega⟩

/-- **A whole number below `2 ^ 64` other than zero is read as a normal double.** -/
theorem isNormal_ofScientific {n : ℕ} (hn : n ≠ 0) (hlt : n < 2 ^ 64) :
    IsNormal .positive 14 (Float.ofScientific n false 0).toModel.unpack := by
  have hlog : n.log2 < 64 := (Nat.log2_lt hn).mpr hlt
  have hround : IsNormal .positive 13 (UnpackedFloat.round .binary64 .positive n 0) := by
    obtain ⟨mantissa, exponent, pos, hround, hdigits, hleast, hexponent⟩ :=
      isNormal_round .positive hn
    exact ⟨mantissa, exponent, pos, hround, hdigits, hleast, by omega⟩
  unfold Float.ofScientific
  split
  · next h =>
      -- few digits: the number is rounded as a word, and then multiplied by a power of ten
      have hword : n.toUInt64.toFloat.toModel
          = .pack (UnpackedFloat.round .binary64 .positive n 0) := by
        have hnat : n.toUInt64.toNat = n := Nat.mod_eq_of_lt hlt
        have hcompare : compare (n : ℤ) 0 = .gt := by
          rw [Int.compare_eq_gt]
          omega
        show Float.Model.pack (UnpackedFloat.normalize .binary64 (n.toUInt64.toNat : ℤ) 0 .positive)
          = _
        rw [hnat, UnpackedFloat.normalize, hcompare, Int.toNat_natCast]
      have hpowers : 0 < Float.exactlyRepresentablePowersOfTen.size := by decide
      have hpower : Float.exactlyRepresentablePowersOfTen[0] = .ofBits 0x3FF0000000000000 := rfl
      have hone : (Float.ofBits 0x3FF0000000000000).toModel.unpack
          = .finite .positive (2 ^ 52) (-52) (Nat.two_pow_pos 52) := rfl
      have hproduct := hround.mul_one
      show IsNormal .positive 14 (Float.Model.pack (UnpackedFloat.mul .binary64
        n.toUInt64.toFloat.toModel.unpack
        Float.exactlyRepresentablePowersOfTen[0].toModel.unpack)).unpack
      rw [hword, hround.unpack_pack (by norm_num), hpower, hone,
        hproduct.unpack_pack (by norm_num)]
      exact hproduct
  · -- many digits: the number is scaled by `2 ^ 53`, and rounded once
    have hscaled : (n <<< 53).log2 = n.log2 + 53 := by
      rw [Nat.shiftLeft_eq, log2_mul_two_pow hn]
    have hmul : UnpackedFloat.ofScientific .binary64 n 0
        = roundWithAccuracy .binary64 .positive (n <<< 53) (-53) .exact := by
      have hlarge : (0 : ℤ) < 2 ^ Format.binary64.exponentBits := by positivity
      unfold UnpackedFloat.ofScientific
      rw [dif_neg hn, if_neg (by omega), if_neg (by omega), if_pos le_rfl,
        ← Nat.mul_one (n <<< 53)]
      rfl
    have hround : IsNormal .positive ((n <<< 53).log2 + -53 - 51)
        (roundWithAccuracy .binary64 .positive (n <<< 53) (-53) .exact) :=
      isNormal_roundWithAccuracy .positive (by omega) (by omega)
    obtain ⟨mantissa, exponent, pos, hround, hdigits, hleast, hexponent⟩ := hround
    have hnormal : IsNormal .positive 14 (UnpackedFloat.ofScientific .binary64 n 0) :=
      ⟨mantissa, exponent, pos, hmul.trans hround, hdigits, hleast, by omega⟩
    show IsNormal .positive 14 (Float.Model.pack (UnpackedFloat.ofScientific .binary64 n 0)).unpack
    rw [hnormal.unpack_pack (by norm_num)]
    exact hnormal

theorem IsNormal.isFinite {u : UnpackedFloat} (h : IsNormal sign greatest u) :
    u.isFinite = true := by
  obtain ⟨mantissa, exponent, pos, rfl, -⟩ := h
  rfl

/-- A normal number is negated by its sign. -/
theorem IsNormal.neg {u : UnpackedFloat} (h : IsNormal .positive greatest u) :
    IsNormal .negative greatest u.neg := by
  obtain ⟨mantissa, exponent, pos, rfl, h⟩ := h
  exact ⟨mantissa, exponent, pos, rfl, h⟩

/-- A whole number below `2 ^ 64` is in the reach of doubles, so its size is computed. -/
theorem toFloat_of_lt (negative : Bool) {n : ℕ} (hn : n < 2 ^ 64) :
    toFloat ⟨negative, n, 0⟩
      = if negative then -Float.ofScientific n false 0 else Float.ofScientific n false 0 := by
  have hlog : n.log2 < 1024 := by
    rcases Nat.eq_zero_or_pos n with rfl | hpos
    · decide
    · exact ((Nat.log2_lt hpos.ne').mpr hn).trans (by norm_num)
  have hbeyond : isBeyond ⟨negative, n, 0⟩ = false := by
    rw [isBeyond, decide_eq_false (Nat.not_le.mpr hlog), Bool.false_and]
  rw [toFloat, hbeyond]
  rfl

/-- **The double of a whole number in 64 bits** is zero for zero, and else normal and of its sign.
-/
theorem unpack_toFloat_cases {k : ℤ} (hk : -2 ^ 63 ≤ k ∧ k < 2 ^ 64) :
    (k = 0 ∧ (toFloat ⟨k < 0, k.natAbs, 0⟩).toModel.unpack = .zero .positive) ∨
    (0 < k ∧ IsNormal .positive 14 (toFloat ⟨k < 0, k.natAbs, 0⟩).toModel.unpack) ∨
    (k < 0 ∧ IsNormal .negative 14 (toFloat ⟨k < 0, k.natAbs, 0⟩).toModel.unpack) := by
  have hsize : k.natAbs < 2 ^ 64 := by omega
  rcases lt_trichotomy k 0 with hneg | rfl | hpos
  · have hnormal := (isNormal_ofScientific (n := k.natAbs) (by omega) hsize).neg
    rw [toFloat_of_lt _ hsize, decide_eq_true hneg]
    refine Or.inr (Or.inr ⟨hneg, ?_⟩)
    show IsNormal .negative 14
      (Float.Model.pack (Float.ofScientific k.natAbs false 0).toModel.unpack.neg).unpack
    rw [hnormal.unpack_pack (by norm_num)]
    exact hnormal
  · exact Or.inl ⟨rfl, rfl⟩
  · rw [toFloat_of_lt _ hsize, decide_eq_false hpos.not_gt]
    exact Or.inr (Or.inl ⟨hpos, isNormal_ofScientific (by omega) hsize⟩)

theorem isFinite_toFloat_integer {k : ℤ} (hk : -2 ^ 63 ≤ k ∧ k < 2 ^ 64) :
    (toFloat ⟨k < 0, k.natAbs, 0⟩).isFinite = true := by
  show (toFloat ⟨k < 0, k.natAbs, 0⟩).toModel.unpack.isFinite = true
  rcases unpack_toFloat_cases hk with ⟨-, hzero⟩ | ⟨-, hnormal⟩ | ⟨-, hnormal⟩
  · rw [hzero]
    rfl
  · exact hnormal.isFinite
  · exact hnormal.isFinite

/-- The double of a whole number is above zero exactly if the number is. -/
theorem zero_lt_toFloat_integer {k : ℤ} (hk : -2 ^ 63 ≤ k ∧ k < 2 ^ 64) :
    Arithmetic.lt 0.0 (toFloat ⟨k < 0, k.natAbs, 0⟩) = true ↔ 0 < k := by
  rw [Arithmetic.float_zero_lt]
  rcases unpack_toFloat_cases hk with
    ⟨rfl, hzero⟩ | ⟨hpos, _, _, _, hnormal, -⟩ | ⟨hneg, _, _, _, hnormal, -⟩
  · rw [hzero]
    exact iff_of_false Bool.false_ne_true (lt_irrefl 0)
  · rw [hnormal]
    exact iff_of_true rfl hpos
  · rw [hnormal]
    exact iff_of_false Bool.false_ne_true hneg.not_gt

end Baggage.Decimal
