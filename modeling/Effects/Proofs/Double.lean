import Mathlib
import Effects.Decimal.Binary

/-!
# Doubles as exact numbers

The number that a finite double stands for is `Decimal.exact`, read off the sign, the significand
and the exponent. Doubles are compared by it, `Decimal.beq_iff`: two finite doubles are equal if
and only if they stand for the same number, since a significand and its exponent are determined by
their product (`Decimal.Binary.Canonical.eq_of_value_eq`), and they determine all bits but the sign.
Whole numbers up to `2^53 - 1` are placed exactly, and recognised again.
-/

namespace Effects.Decimal

open Float.Model.UnpackedFloat (Sign unpack pack pack_unpack packComponents isNaNBits unpackSign
  unpackExponent unpackMantissa unpackSign_def unpackExponent_def unpackMantissa_def
  unpackSign_packComponents unpackExponent_packComponents unpackMantissa_packComponents)

/-! ## The fields of a double -/

theorem toNat_exponent (bits : UInt64) :
    ((bits >>> 52) &&& 0x7FF).toNat = bits.toNat / 2 ^ 52 % 2 ^ 11 := by
  rw [UInt64.toNat_and, UInt64.toNat_shiftRight, Nat.shiftRight_eq_div_pow]
  exact Nat.and_two_pow_sub_one_eq_mod _ 11

theorem toNat_fraction (bits : UInt64) :
    (bits &&& 0xFFFFFFFFFFFFF).toNat = bits.toNat % 2 ^ 52 := by
  rw [UInt64.toNat_and]
  exact Nat.and_two_pow_sub_one_eq_mod _ 52

theorem isNegative_iff (x : Float) : isNegative x = true ↔ 2 ^ 63 ≤ x.toBits.toNat := by
  rw [isNegative, decide_eq_true_iff, ← UInt64.toNat_inj, UInt64.toNat_shiftRight,
    Nat.shiftRight_eq_div_pow]
  have := x.toBits.toNat_lt
  show x.toBits.toNat / 2 ^ 63 = 1 ↔ _
  omega

/-! The same fields, as the operations on doubles see them. -/

theorem toNat_unpackExponent (bits : UInt64) :
    (@unpackExponent .binary64 bits.toBitVec).toNat = bits.toNat / 2 ^ 52 % 2 ^ 11 := by
  rw [unpackExponent_def, BitVec.extractLsb'_toNat,
    Nat.shiftRight_eq_div_pow]
  rfl

theorem toNat_unpackMantissa (bits : UInt64) :
    (@unpackMantissa .binary64 bits.toBitVec).toNat = bits.toNat % 2 ^ 52 := by
  rw [unpackMantissa_def, BitVec.extractLsb'_toNat]
  rfl

theorem toNat_unpackSign (bits : UInt64) :
    (@unpackSign .binary64 bits.toBitVec).toNat = bits.toNat / 2 ^ 63 % 2 := by
  rw [unpackSign_def, BitVec.extractLsb'_toNat,
    Nat.shiftRight_eq_div_pow]
  rfl

/-- A double is finite if not all bits of its exponent are set. -/
theorem isFinite_iff (x : Float) :
    x.isFinite = true ↔ x.toBits.toNat / 2 ^ 52 % 2 ^ 11 ≠ 2047 := by
  rw [← toNat_unpackExponent]
  generalize hb : x.toBits.toBitVec = b
  have hones : @unpackExponent .binary64 b = -1#_ ↔ (@unpackExponent .binary64 b).toNat = 2047 := by
    rw [← BitVec.toNat_inj]
    rfl
  have hfinite : x.isFinite = (unpack .binary64 b).isFinite := by
    rw [← hb]
    rfl
  rw [ne_eq, ← hones, hfinite, unpack]
  by_cases hexponent : @unpackExponent .binary64 b = -1#_
  · simp only [hexponent, if_pos, not_true, iff_false]
    split <;> nofun
  · simp only [hexponent, if_neg, not_false_eq_true, iff_true]
    split
    · split <;> rfl
    · rfl

/-- Bits that are not those of a `NaN` are kept. -/
theorem toBits_ofBits {bits : UInt64} (h : bits.toNat / 2 ^ 52 % 2 ^ 11 ≠ 2047) :
    (Float.ofBits bits).toBits = bits := by
  have hnan : @isNaNBits .binary64 bits.toBitVec = false := by
    rw [← toNat_unpackExponent] at h
    refine decide_eq_false fun hnan => h ?_
    rw [hnan.1]
    rfl
  rw [← UInt64.toBitVec_inj]
  show pack .binary64 (unpack .binary64 bits.toBitVec) = bits.toBitVec
  rw [pack_unpack, hnan]
  rfl

/-! ## The number that a double stands for -/

namespace Binary

/-- The magnitude as a number. -/
def value (b : Binary) : ℚ := b.m * 2 ^ b.q

/-- The significand has at most 53 bits, and exactly 53 unless the exponent is the least one. -/
structure Canonical (b : Binary) : Prop where
  m_lt : b.m < 2 ^ 53
  q_ge : -1074 ≤ b.q
  normal : -1074 < b.q → 2 ^ 52 ≤ b.m

theorem ofFloat_eq (x : Float) :
    ofFloat x =
      if x.toBits.toNat / 2 ^ 52 % 2 ^ 11 = 0 then ⟨x.toBits.toNat % 2 ^ 52, -1074, false⟩
      else ⟨2 ^ 52 + x.toBits.toNat % 2 ^ 52, (x.toBits.toNat / 2 ^ 52 % 2 ^ 11 : ℕ) - 1075,
        x.toBits.toNat % 2 ^ 52 = 0 && x.toBits.toNat / 2 ^ 52 % 2 ^ 11 > 1⟩ := by
  rw [← toNat_exponent, ← toNat_fraction]
  rfl

theorem canonical_ofFloat (x : Float) : (ofFloat x).Canonical := by
  rw [ofFloat_eq]
  split
  · constructor <;> simp only <;> omega
  · constructor <;> simp only <;> omega

theorem value_eq_iff {b c : Binary} (h : b.q ≤ c.q) :
    b.value = c.value ↔ b.m = c.m * 2 ^ (c.q - b.q).toNat := by
  have hpos : (0 : ℚ) < 2 ^ b.q := by positivity
  have hsplit : (2 : ℚ) ^ c.q = 2 ^ (c.q - b.q).toNat * 2 ^ b.q := by
    rw [← zpow_natCast, ← zpow_add₀ two_ne_zero]
    congr 1
    omega
  rw [value, value, hsplit, ← mul_assoc, mul_left_inj' hpos.ne']
  exact_mod_cast Iff.rfl

/-- A significand and its exponent are determined by the magnitude. -/
theorem Canonical.eq_of_value_eq {b c : Binary} (hb : b.Canonical) (hc : c.Canonical)
    (h : b.value = c.value) : b.m = c.m ∧ b.q = c.q := by
  wlog hle : b.q ≤ c.q generalizing b c
  · obtain ⟨hm, hq⟩ := this hc hb h.symm (by omega)
    exact ⟨hm.symm, hq.symm⟩
  rw [value_eq_iff hle] at h
  rcases hle.eq_or_lt with heq | hlt
  · simp only [heq, sub_self, Int.toNat_zero, pow_zero, mul_one] at h
    exact ⟨h, heq⟩
  · -- the second significand is normal, so the first one would have too many bits
    have hnormal := hc.normal (by have := hb.q_ge; omega)
    have htwice : 2 ≤ 2 ^ (c.q - b.q).toNat := Nat.le_self_pow (by omega) 2
    have hlarge := Nat.mul_le_mul hnormal htwice
    have hsmall := hb.m_lt
    omega

end Binary

/-- The number that a finite double stands for. -/
def exact (x : Float) : ℚ :=
  if isNegative x then -(Binary.ofFloat x).value else (Binary.ofFloat x).value

/-- The sign, the significand and the exponent are all that there is to a double. -/
theorem eq_of_fields {x y : Float} (hsign : isNegative x = isNegative y)
    (hm : (Binary.ofFloat x).m = (Binary.ofFloat y).m)
    (hq : (Binary.ofFloat x).q = (Binary.ofFloat y).q) : x = y := by
  rw [Bool.eq_iff_iff, isNegative_iff, isNegative_iff] at hsign
  have hx := x.toBits.toNat_lt
  have hy := y.toBits.toNat_lt
  rw [← Float.toBits_inj, ← UInt64.toNat_inj]
  rw [Binary.ofFloat_eq, Binary.ofFloat_eq] at hm hq
  split at hm <;> split at hm <;> simp_all only [if_true, if_false] <;> omega

theorem ne_nan_of_isFinite {x : Float} (h : x.isFinite = true) : x ≠ Float.nan := by
  rintro rfl
  have hnan : Float.nan.isFinite = false := by decide +kernel
  rw [hnan] at h
  cases h

theorem Binary.value_nonneg (b : Binary) : 0 ≤ b.value := by
  rw [value]
  positivity

theorem exact_eq_zero_iff_value (x : Float) : exact x = 0 ↔ (Binary.ofFloat x).value = 0 := by
  rw [exact]
  split <;> simp

/-- Only the two zeros stand for zero. -/
theorem exact_eq_zero_iff (x : Float) : exact x = 0 ↔ x = 0 ∨ x = -0 := by
  have hzero : Binary.ofFloat 0 = ⟨0, -1074, false⟩ := by decide +kernel
  have hnegative : Binary.ofFloat (-0) = ⟨0, -1074, false⟩ := by decide +kernel
  rw [exact_eq_zero_iff_value]
  constructor
  · intro h
    have hm : (Binary.ofFloat x).m = 0 := by simpa [Binary.value, zpow_ne_zero] using h
    -- a significand without bits is not normal
    have hq : (Binary.ofFloat x).q = -1074 := by
      obtain ⟨-, hge, hnormal⟩ := Binary.canonical_ofFloat x
      omega
    cases hsign : isNegative x with
    | false =>
      have hsign0 : isNegative 0 = false := by decide +kernel
      exact .inl (eq_of_fields (by rw [hsign, hsign0]) (by rw [hm, hzero]) (by rw [hq, hzero]))
    | true =>
      have hsign0 : isNegative (-0) = true := by decide +kernel
      exact .inr (eq_of_fields (by rw [hsign, hsign0]) (by rw [hm, hnegative])
        (by rw [hq, hnegative]))
  · rintro (rfl | rfl)
    · simp [Binary.value, hzero]
    · simp [Binary.value, hnegative]

/-- Doubles that stand for the same number, other than zero, are the same. -/
theorem eq_of_exact_eq {x y : Float} (h : exact x = exact y) (hne : exact x ≠ 0) : x = y := by
  have hx := (Binary.ofFloat x).value_nonneg
  have hy := (Binary.ofFloat y).value_nonneg
  have hx0 := mt (exact_eq_zero_iff_value x).mpr hne
  have hy0 := mt (exact_eq_zero_iff_value y).mpr (h ▸ hne)
  have hsame (hsign : isNegative x = isNegative y)
      (hvalue : (Binary.ofFloat x).value = (Binary.ofFloat y).value) : x = y := by
    obtain ⟨hm, hq⟩ :=
      (Binary.canonical_ofFloat x).eq_of_value_eq (Binary.canonical_ofFloat y) hvalue
    exact eq_of_fields hsign hm hq
  rw [exact, exact] at h
  cases hxs : isNegative x <;> cases hys : isNegative y <;>
    simp only [hxs, hys, if_true, if_false, Bool.false_eq_true, neg_inj] at h
  · exact hsame (hxs.trans hys.symm) h
  · exact absurd (by linarith : (Binary.ofFloat x).value = 0) hx0
  · exact absurd (by linarith : (Binary.ofFloat y).value = 0) hy0
  · exact hsame (hxs.trans hys.symm) h

/-- Finite doubles are equal if they stand for the same number. -/
theorem beq_iff {x y : Float} (hx : x.isFinite = true) (hy : y.isFinite = true) :
    (x == y) = true ↔ exact x = exact y := by
  have hzero := (exact_eq_zero_iff 0).mpr (.inl rfl)
  have hnegative := (exact_eq_zero_iff (-0)).mpr (.inr rfl)
  rw [Float.beq_iff_ne_nan_and_eq]
  constructor
  · rintro ⟨-, -, rfl | ⟨rfl, rfl⟩ | ⟨rfl, rfl⟩⟩
    · rfl
    · rw [hzero, hnegative]
    · rw [hzero, hnegative]
  · intro h
    refine ⟨ne_nan_of_isFinite hx, ne_nan_of_isFinite hy, ?_⟩
    by_cases hne : exact x = 0
    · rcases (exact_eq_zero_iff x).mp hne with rfl | rfl <;>
        rcases (exact_eq_zero_iff y).mp (h ▸ hne) with rfl | rfl
      · exact .inl rfl
      · exact .inr (.inl ⟨rfl, rfl⟩)
      · exact .inr (.inr ⟨rfl, rfl⟩)
      · exact .inl rfl
    · exact .inl (eq_of_exact_eq h hne)

/-! ## Whole numbers -/

/-- A magnitude is read as a natural number if it is one. -/
theorem Binary.toNat?_eq_some_iff (b : Binary) (n : Nat) : b.toNat? = some n ↔ b.value = n := by
  rw [toNat?, value]
  by_cases hq : b.q ≥ 0
  · obtain ⟨k, hk⟩ := Int.eq_ofNat_of_zero_le hq
    rw [if_pos hq, Option.some_inj, hk, zpow_natCast, power, Int.toNat_natCast]
    exact_mod_cast Iff.rfl
  · obtain ⟨k, hk⟩ := Int.eq_ofNat_of_zero_le (show 0 ≤ -b.q by omega)
    have hpow : power 2 (-b.q) = 2 ^ k := by rw [hk]; rfl
    have hvalue : (b.m : ℚ) * 2 ^ b.q = n ↔ b.m = n * 2 ^ k := by
      rw [show b.q = -(k : ℤ) by simpa using congrArg Neg.neg hk, zpow_neg, zpow_natCast,
        mul_inv_eq_iff_eq_mul₀ (by positivity)]
      exact_mod_cast Iff.rfl
    rw [if_neg hq, hpow, hvalue]
    split
    · rename_i hdvd
      rw [Option.some_inj, Nat.div_eq_iff_eq_mul_left (by positivity) (Nat.dvd_of_mod_eq_zero hdvd)]
    · rename_i hdvd
      refine ⟨nofun, fun h => (hdvd ?_).elim⟩
      rw [h, Nat.mul_mod_left]

theorem exact_eq_of_value {x : Float} {k : Nat} (h : (Binary.ofFloat x).value = k) :
    exact x = (if isNegative x then -(k : Int) else k : Int) := by
  rw [exact, h]
  split <;> simp

theorem value_eq_natAbs {x : Float} {n : Int} (h : exact x = n) :
    (Binary.ofFloat x).value = n.natAbs := by
  have hvalue : (Binary.ofFloat x).value = |exact x| := by
    have hnonneg := (Binary.ofFloat x).value_nonneg
    rw [exact]
    split
    · rw [abs_neg, abs_of_nonneg hnonneg]
    · rw [abs_of_nonneg hnonneg]
  rw [hvalue, h, Nat.cast_natAbs, Int.cast_abs]

/-- A double is read as a whole number if it is one, and one of those that are exact. -/
theorem exactInt?_eq_some_iff {x : Float} (hx : x.isFinite = true) (n : Int) :
    exactInt? x = some n ↔ exact x = n ∧ n.natAbs ≤ maxExact := by
  rw [exactInt?, if_pos hx]
  cases hread : (Binary.ofFloat x).toNat? with
  | none =>
    refine ⟨nofun, fun ⟨hn, _⟩ => ?_⟩
    rw [(Binary.toNat?_eq_some_iff _ _).mpr (value_eq_natAbs hn)] at hread
    cases hread
  | some k =>
    rw [Binary.toNat?_eq_some_iff] at hread
    rw [exact_eq_of_value hread, Int.cast_inj]
    simp only
    split
    · rw [Option.some_inj, iff_self_and]
      rintro rfl
      split <;> omega
    · refine ⟨nofun, fun ⟨hn, hle⟩ => ?_⟩
      split at hn <;> omega

/-- The significand of a natural number is shifted until it has 53 bits. -/
theorem shifted_bounds {n : Nat} (hpos : n ≠ 0) (hle : n ≤ maxExact) :
    n.log2 ≤ 52 ∧ 2 ^ 52 ≤ n * 2 ^ (52 - n.log2) ∧ n * 2 ^ (52 - n.log2) < 2 ^ 53 := by
  have hlog : n.log2 < 53 := (Nat.log2_lt hpos).mpr (Nat.lt_of_le_of_lt hle (by decide))
  have hlow := Nat.mul_le_mul_right (2 ^ (52 - n.log2)) (Nat.log2_self_le hpos)
  have hhigh := Nat.mul_lt_mul_of_pos_right (Nat.lt_log2_self (n := n))
    (Nat.two_pow_pos (52 - n.log2))
  rw [← pow_add] at hlow hhigh
  rw [show n.log2 + (52 - n.log2) = 52 by omega] at hlow
  rw [show n.log2 + 1 + (52 - n.log2) = 53 by omega] at hhigh
  exact ⟨by omega, hlow, hhigh⟩

theorem toNat_bitsOfNat {n : Nat} (hpos : n ≠ 0) (hle : n ≤ maxExact) :
    (bitsOfNat n).toNat = (n.log2 + 1023) * 2 ^ 52 + (n * 2 ^ (52 - n.log2) - 2 ^ 52) := by
  obtain ⟨hlog, hlow, hhigh⟩ := shifted_bounds hpos hle
  have hpower : power 2 (52 - (n.log2 : Int)) = 2 ^ (52 - n.log2) := by
    rw [power, show (52 - (n.log2 : Int)).toNat = 52 - n.log2 by omega]
    rfl
  rw [bitsOfNat, if_neg hpos]
  simp only [hpower, show implicitBit = 2 ^ 52 from rfl]
  rw [UInt64.toNat_ofNat', Nat.mod_eq_of_lt (by omega)]

/-- The double of a small natural number stands for it. -/
theorem ofBits_bitsOfNat {n : Nat} (hle : n ≤ maxExact) :
    (Float.ofBits (bitsOfNat n)).isFinite = true ∧ exact (Float.ofBits (bitsOfNat n)) = n := by
  by_cases hpos : n = 0
  · have hzero : Float.ofBits (bitsOfNat 0) = 0 := by decide +kernel
    rw [hpos, hzero, (exact_eq_zero_iff 0).mpr (.inl rfl)]
    exact ⟨by decide +kernel, Nat.cast_zero.symm⟩
  obtain ⟨hlog, hlow, hhigh⟩ := shifted_bounds hpos hle
  have hbits := toNat_bitsOfNat hpos hle
  have hexponent : (bitsOfNat n).toNat / 2 ^ 52 % 2 ^ 11 = n.log2 + 1023 := by omega
  have hfraction : (bitsOfNat n).toNat % 2 ^ 52 = n * 2 ^ (52 - n.log2) - 2 ^ 52 := by omega
  have hkept : (Float.ofBits (bitsOfNat n)).toBits = bitsOfNat n := toBits_ofBits (by omega)
  have hsign : ¬ isNegative (Float.ofBits (bitsOfNat n)) = true := by
    rw [isNegative_iff, hkept]
    omega
  refine ⟨by rw [isFinite_iff, hkept]; omega, ?_⟩
  rw [exact, if_neg hsign, Binary.ofFloat_eq, hkept, hexponent, hfraction, if_neg (by omega),
    Binary.value]
  simp only [Nat.add_sub_cancel' hlow]
  rw [show ((n.log2 + 1023 : ℕ) : ℤ) - 1075 = -((52 - n.log2 : ℕ) : ℤ) by omega, zpow_neg,
    zpow_natCast]
  push_cast
  rw [mul_assoc, mul_inv_cancel₀ (by positivity), mul_one]

/-- Negation flips the sign bit of a finite double and keeps the others. -/
theorem toBits_neg {x : Float} (hx : x.isFinite = true) :
    (-x).toBits.toBitVec = packComponents .binary64
      (-.ofBitVec (@unpackSign .binary64 x.toBits.toBitVec)) (unpackExponent x.toBits.toBitVec)
      (unpackMantissa x.toBits.toBitVec) := by
  show pack .binary64 (unpack .binary64 x.toBits.toBitVec).neg = _
  have hones : @unpackExponent .binary64 x.toBits.toBitVec ≠ -1#_ := by
    rw [isFinite_iff, ← toNat_unpackExponent] at hx
    intro hones
    rw [hones] at hx
    exact hx rfl
  generalize (x.toBits.toBitVec : BitVec Float.Model.Format.binary64.numBits) = b at hones ⊢
  have hunpacked : (unpack .binary64 b).neg = unpack .binary64 (packComponents .binary64
      (-.ofBitVec (@unpackSign .binary64 b)) (unpackExponent b) (unpackMantissa b)) := by
    simp only [unpack, unpackExponent_packComponents,
      unpackMantissa_packComponents,
      unpackSign_packComponents,
      Sign.ofBitVec_toBitVec, if_neg hones]
    split
    · split <;> rfl
    · rfl
  rw [hunpacked, pack_unpack, if_neg]
  rw [isNaNBits, decide_eq_true_iff, unpackExponent_packComponents]
  exact fun hnan => hones hnan.1

theorem fields_neg {x : Float} (hx : x.isFinite = true) :
    (-x).toBits.toNat / 2 ^ 52 % 2 ^ 11 = x.toBits.toNat / 2 ^ 52 % 2 ^ 11 ∧
      (-x).toBits.toNat % 2 ^ 52 = x.toBits.toNat % 2 ^ 52 ∧
      (-x).toBits.toNat / 2 ^ 63 % 2 + x.toBits.toNat / 2 ^ 63 % 2 = 1 := by
  rw [← toNat_unpackExponent, ← toNat_unpackExponent, ← toNat_unpackMantissa,
    ← toNat_unpackMantissa, ← toNat_unpackSign, ← toNat_unpackSign, toBits_neg hx]
  refine ⟨?_, ?_, ?_⟩
  · rw [unpackExponent_packComponents]
  · rw [unpackMantissa_packComponents]
  · rw [unpackSign_packComponents]
    generalize @unpackSign .binary64 x.toBits.toBitVec = sign
    decide +revert

/-- The negated double stands for the negated number. -/
theorem neg_isFinite_exact {x : Float} (hx : x.isFinite = true) :
    (-x).isFinite = true ∧ exact (-x) = -exact x := by
  obtain ⟨hexponent, hfraction, hsign⟩ := fields_neg hx
  have hflipped : isNegative (-x) = !isNegative x := by
    have hlt := x.toBits.toNat_lt
    have hlt' := (-x).toBits.toNat_lt
    rw [Bool.eq_iff_iff, Bool.not_eq_true', ← Bool.not_eq_true, isNegative_iff, isNegative_iff]
    omega
  have hsame : Binary.ofFloat (-x) = Binary.ofFloat x := by
    rw [Binary.ofFloat_eq, Binary.ofFloat_eq, hexponent, hfraction]
  refine ⟨?_, ?_⟩
  · rw [isFinite_iff, hexponent, ← isFinite_iff]
    exact hx
  · rw [exact, exact, hsame, hflipped]
    cases isNegative x <;> simp

/-- A small whole number becomes the double that stands for it. -/
theorem ofInt_isFinite_exact {n : Int} (hle : n.natAbs ≤ maxExact) :
    (ofInt n).isFinite = true ∧ exact (ofInt n) = n := by
  obtain ⟨hfinite, hexact⟩ := ofBits_bitsOfNat hle
  rw [ofInt, if_pos hle]
  split
  · obtain ⟨hneg, hnegated⟩ := neg_isFinite_exact hfinite
    refine ⟨hneg, ?_⟩
    rw [hnegated, hexact]
    have hnat : (n.natAbs : ℤ) = -n := by omega
    rw [← Int.cast_natCast, hnat, Int.cast_neg, neg_neg]
  · refine ⟨hfinite, ?_⟩
    have hnat : (n.natAbs : ℤ) = n := by omega
    rw [hexact, ← Int.cast_natCast, hnat]

end Effects.Decimal
