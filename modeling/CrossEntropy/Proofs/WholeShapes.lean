import Mathlib
import CrossEntropy.Family.Beta
import CrossEntropy.Proofs.FloatOrder

/-!
The whole shapes of doubles. A shape counts by its whole part only, a natural number or infinity, which is one for
shapes below one and for those that are not numbers (`wholeShape_eq`).

* A number below one has a small exponent, or is negative; its floor is not above one
  (`not_one_lt_floatFloor_of_fraction`, `not_one_lt_floatFloor_of_negative`).
* The floor of a greater number keeps the digits of its mantissa down to the units, and these with the exponent are the
  digits and the length of the whole part (`log2_shift`, `shift_shift`, `IsPositive.wholeShape_of_two_le`).
-/

namespace CrossEntropy
open Float.Model UnpackedFloat

/-- The whole part of a double, raised to one where it is less or the double is not a number. -/
def wholeNumber (x : Float) : ℕ∞ :=
  match x.toModel.unpack with
  | .infinity .positive => ⊤
  | .finite sign m e _ => (max 1 ⌊(sign.apply m : ℚ) * 2 ^ e⌋₊ : Nat)
  | .notANumber | .zero _ | .infinity .negative => 1

/-- A whole number as a double, if its binary digits after the first 53 are zeros. -/
def wholeDouble : ℕ∞ → Float
  | ⊤ => 1 / 0
  | (n : Nat) => Float.ofBits (.ofNat ((n.log2 + 1022) * 0x10000000000000 + n <<< 52 >>> n.log2))

theorem toNat_toBits_ofBits {n : Nat} (fits : n < 0x10000000000000000) (finite : n / 0x10000000000000 % 2048 < 2047) :
    (Float.ofBits (.ofNat n)).toBits.toNat = n := by
  have bits : (UInt64.ofNat n).toBitVec.toNat = n := by
    rw [UInt64.toBitVec_ofNat', BitVec.toNat_ofNat, Nat.mod_eq_of_lt fits]
  have number : ¬@isNaNBits Format.binary64 (UInt64.ofNat n).toBitVec := by
    have exponent := toNat_unpackExponent (UInt64.ofNat n).toBitVec
    rw [bits] at exponent
    intro nan
    obtain ⟨top, -⟩ := of_decide_eq_true nan
    rw [top] at exponent
    change 2047 = _ at exponent
    omega
  change (UnpackedFloat.pack Format.binary64 (UnpackedFloat.unpack Format.binary64 (UInt64.ofNat n).toBitVec)).toNat = n
  rw [pack_unpack, if_neg number, bits]

theorem floor_eq_shift (m : Nat) (e : Int) : ⌊(m : ℚ) * 2 ^ e⌋₊ = m <<< e.toNat >>> (-e).toNat := by
  obtain ⟨k, rfl | rfl⟩ := Int.eq_nat_or_neg e
  · rw [Int.toNat_natCast, Int.toNat_neg_natCast, Nat.shiftRight_zero, Nat.shiftLeft_eq, zpow_natCast]
    exact_mod_cast Nat.floor_natCast (R := ℚ) (m * 2 ^ k)
  · rw [Int.neg_neg, Int.toNat_natCast, Int.toNat_neg_natCast, Nat.shiftLeft_zero, Nat.shiftRight_eq_div_pow, zpow_neg,
      zpow_natCast, ← div_eq_mul_inv]
    exact_mod_cast Nat.floor_div_eq_div (K := ℚ) m (2 ^ k)

theorem wholeNumber_of_positive {x : Float} {m : Nat} {e : Int} {pos : 0 < m}
    (unpacked : x.toModel.unpack = .finite .positive m e pos) :
    wholeNumber x = (max 1 (m <<< e.toNat >>> (-e).toNat) : Nat) := by
  rw [wholeNumber, unpacked, ← floor_eq_shift]
  rfl

theorem wholeNumber_of_negative {x : Float} {m : Nat} {e : Int} {pos : 0 < m}
    (unpacked : x.toModel.unpack = .finite .negative m e pos) : wholeNumber x = 1 := by
  have below : (Sign.negative.apply m : ℚ) * 2 ^ e ≤ 0 := by
    rw [Sign.apply, Int.cast_neg]
    exact mul_nonpos_of_nonpos_of_nonneg (by simp) (by positivity)
  rw [wholeNumber, unpacked]
  change ((max 1 ⌊(Sign.negative.apply m : ℚ) * 2 ^ e⌋₊ : Nat) : ℕ∞) = 1
  rw [Nat.floor_of_nonpos below]
  rfl

theorem log2_shift {m : Nat} {e : Int} (low : -51 ≤ e) (normal : 0x10000000000000 ≤ m) (fits : m < 0x20000000000000) :
    (m <<< e.toNat >>> (-e).toNat).log2 = (e + 52).toNat := by
  -- A power of two adds zeros, or takes away at most 51 of the 53 digits.
  obtain ⟨k, rfl | rfl⟩ := Int.eq_nat_or_neg e
  · rw [Int.toNat_natCast, Int.toNat_neg_natCast, Nat.shiftRight_zero, Nat.shiftLeft_eq]
    have exponent : ((k : Int) + 52).toNat = 52 + k := by omega
    rw [exponent, Nat.log2_eq_iff (by positivity), Nat.add_right_comm, Nat.pow_add, Nat.pow_add]
    exact ⟨Nat.mul_le_mul_right _ normal, Nat.mul_lt_mul_of_pos_right fits (by positivity)⟩
  · rw [Int.neg_neg, Int.toNat_natCast, Int.toNat_neg_natCast, Nat.shiftLeft_zero, Nat.shiftRight_eq_div_pow]
    have exponent : (-(k : Int) + 52).toNat = 52 - k := by omega
    have whole : 2 ^ (52 - k) * 2 ^ k = 0x10000000000000 := by
      rw [← Nat.pow_add, Nat.sub_add_cancel (by omega)]
    have lower : 2 ^ (52 - k) ≤ m / 2 ^ k := by
      rwa [Nat.le_div_iff_mul_le (by positivity), whole]
    have upper : m / 2 ^ k < 2 ^ (52 - k + 1) := by
      rw [Nat.div_lt_iff_lt_mul (by positivity), Nat.pow_succ, Nat.mul_right_comm, whole]
      exact fits
    have positive : 0 < 2 ^ (52 - k) := by positivity
    rw [exponent, Nat.log2_eq_iff (by omega)]
    exact ⟨lower, upper⟩

theorem shift_shift {m : Nat} {e : Int} (low : -51 ≤ e) :
    (m <<< e.toNat >>> (-e).toNat) <<< 52 >>> (e + 52).toNat = m - m % Nat.pow 2 (-e).toNat := by
  obtain ⟨k, rfl | rfl⟩ := Int.eq_nat_or_neg e
  · have exponent : ((k : Int) + 52).toNat = k + 52 := by omega
    rw [Int.toNat_natCast, Int.toNat_neg_natCast, exponent, Nat.shiftRight_zero, ← Nat.shiftLeft_add,
      Nat.shiftLeft_shiftRight]
    exact (congrArg (m - ·) (Nat.mod_one m)).symm
  · have exponent : (-(k : Int) + 52).toNat = 52 - k := by omega
    have apart : 52 = k + (52 - k) := by omega
    rw [Int.neg_neg, Int.toNat_natCast, Int.toNat_neg_natCast, exponent, Nat.shiftLeft_zero]
    calc
      m >>> k <<< 52 >>> (52 - k) = m >>> k <<< (k + (52 - k)) >>> (52 - k) := by rw [← apart]
      _ = m >>> k <<< k := by rw [Nat.shiftLeft_add, Nat.shiftLeft_shiftRight]
      _ = m / 2 ^ k * 2 ^ k := by rw [Nat.shiftLeft_eq, Nat.shiftRight_eq_div_pow]
      _ = m - m % 2 ^ k := Nat.div_mul_self_eq_mod_sub_self

theorem one_le_shift {m : Nat} {e : Int} (low : -51 ≤ e) (normal : 0x10000000000000 ≤ m) (fits : m < 0x20000000000000) :
    1 ≤ m <<< e.toNat >>> (-e).toNat := by
  have logarithm := log2_shift low normal fits
  by_contra none
  rw [Nat.eq_zero_of_not_pos none, Nat.log2_zero] at logarithm
  omega

/-- The digits below the units are those of the mantissa, since the exponent stands above all of them. -/
theorem mod_of_bits {n m : Nat} {e : Int} (low : -51 ≤ e) (bits : (n : Int) = (e + 1074) * 0x10000000000000 + m) :
    n % Nat.pow 2 (-e).toNat = m % Nat.pow 2 (-e).toNat := by
  have split : 2 ^ (52 - (-e).toNat) * 2 ^ (-e).toNat = 0x10000000000000 := by
    rw [← Nat.pow_add, Nat.sub_add_cancel (by omega)]
  have sum : n = m + (e + 1074).toNat * 2 ^ (52 - (-e).toNat) * 2 ^ (-e).toNat := by
    rw [Nat.mul_assoc, split]
    omega
  rw [sum]
  exact Nat.add_mul_mod_self_right ..

theorem floatPlace_ofBits {n : Nat} (fits : n < 0x10000000000000000) (finite : n / 0x10000000000000 % 2048 < 2047) :
    floatPlace (Float.ofBits (.ofNat n)) = if n < 0x8000000000000000 then (n : Int) else -(n - 0x8000000000000000) := by
  rw [floatPlace, toNat_toBits_ofBits fits finite]

theorem isNaN_ofBits {n : Nat} (fits : n < 0x10000000000000000) (finite : n / 0x10000000000000 % 2048 < 2047) :
    (Float.ofBits (.ofNat n)).isNaN = false := by
  rw [Float.isNaN_eq_decide_eq_nan, decide_eq_false_iff_not]
  intro nan
  have bits := toNat_toBits_ofBits fits finite
  rw [nan] at bits
  change 0x7FF8000000000000 = n at bits
  omega

theorem floatPlace_one : floatPlace 1 = 0x3FF0000000000000 := by
  decide +kernel

theorem not_one_lt_of_place {x : Float} (le : floatPlace x ≤ 0x3FF0000000000000) : ¬1 < x := by
  intro lt
  obtain ⟨one, number⟩ := number_of_lt lt
  rw [lt_iff_place one number, floatPlace_one] at lt
  omega

section Floor
variable {x : Float} {unit : Nat}

theorem not_one_lt_floatFloor_of_fraction (small : exponentField x < 1023) : ¬1 < floatFloor x := by
  rw [floatFloor, if_pos small]
  split
  · decide +kernel
  · split
    · decide +kernel
    · rename_i positive
      exact fun lt => positive (float_lt_trans (by decide +kernel) lt)

theorem floatFloor_eq (large : 1023 ≤ exponentField x) (place : unit = Nat.pow 2 (1075 - exponentField x)) :
    floatFloor x = Float.ofBits (.ofNat
      (if x < 0 ∧ x.toBits.toNat - x.toBits.toNat % unit ≠ x.toBits.toNat
        then x.toBits.toNat - x.toBits.toNat % unit + unit
        else x.toBits.toNat - x.toBits.toNat % unit)) := by
  rw [floatFloor, if_neg (Nat.not_lt.2 large), place]

theorem floatFloor_of_large (large : 1075 ≤ exponentField x) : floatFloor x = x := by
  have place : 1 = Nat.pow 2 (1075 - exponentField x) := by
    rw [Nat.sub_eq_zero_of_le large]
  simp [floatFloor_eq (by omega) place, Nat.mod_one]

theorem not_one_lt_floatFloor_of_negative (negative : 0x8000000000000000 ≤ x.toBits.toNat) : ¬1 < floatFloor x := by
  have fits := x.toBits.toNat_lt
  rcases Nat.lt_or_ge (exponentField x) 1023 with small | large
  · exact not_one_lt_floatFloor_of_fraction small
  rcases Nat.lt_or_ge (exponentField x) 1075 with part | whole
  · obtain ⟨unit, place⟩ : ∃ unit, unit = Nat.pow 2 (1075 - exponentField x) := ⟨_, rfl⟩
    have bound : unit ≤ 0x10000000000000 := by
      rw [place]
      exact Nat.pow_le_pow_right Nat.two_pos (show _ ≤ 52 by omega)
    have rest : x.toBits.toNat % unit < unit := Nat.mod_lt _ (place ▸ Nat.pow_pos Nat.two_pos)
    have field : exponentField x = x.toBits.toNat / 0x10000000000000 % 2048 := rfl
    rw [floatFloor_eq large place]
    apply not_one_lt_of_place
    -- Raising the magnitude may carry into the exponent, which is far from that of infinity.
    split <;> rw [floatPlace_ofBits (by omega) (by omega)] <;> omega
  · rw [floatFloor_of_large whole]
    apply not_one_lt_of_place
    rw [floatPlace, if_neg (by omega)]
    omega

theorem floatFloor_of_positive (positive : x.toBits.toNat < 0x8000000000000000) (large : 1023 ≤ exponentField x)
    (place : unit = Nat.pow 2 (1075 - exponentField x)) :
    floatFloor x = Float.ofBits (.ofNat (x.toBits.toNat - x.toBits.toNat % unit)) := by
  have zero : floatPlace 0 = 0 := by decide +kernel
  have above : ¬x < 0 := by
    intro lt
    obtain ⟨number, origin⟩ := number_of_lt lt
    rw [lt_iff_place number origin, zero, floatPlace, if_pos positive] at lt
    omega
  rw [floatFloor_eq large place, if_neg fun both => above both.1]

end Floor

theorem wholeDouble_one : wholeDouble 1 = 1 := by
  decide +kernel

theorem wholeDouble_natCast (n : Nat) :
    wholeDouble n = Float.ofBits (.ofNat ((n.log2 + 1022) * 0x10000000000000 + n <<< 52 >>> n.log2)) :=
  rfl

theorem wholeShape_eq_of_low {x : Float} (low : ¬1 < floatFloor x) (one : wholeNumber x = 1) :
    Beta.wholeShape x = wholeDouble (wholeNumber x) := by
  rw [one, wholeDouble_one]
  exact if_neg low

theorem wholeShape_eq_of_high {x : Float} (high : 1 < floatFloor x)
    (whole : floatFloor x = wholeDouble (wholeNumber x)) :
    Beta.wholeShape x = wholeDouble (wholeNumber x) := by
  rw [← whole]
  exact if_pos high

structure IsPositive (x : Float) (m : Nat) (e : Int) : Prop where
  unpacked : ∃ pos, x.toModel.unpack = .finite .positive m e pos
  bits : (x.toBits.toNat : Int) = (e + 1074) * 0x10000000000000 + m
  low : -1074 ≤ e
  high : e ≤ 971
  fits : m < 0x20000000000000
  normal : e = -1074 ∨ 0x10000000000000 ≤ m

namespace IsPositive
variable {x : Float} {m : Nat} {e : Int}

theorem wholeNumber_eq (h : IsPositive x m e) : wholeNumber x = (max 1 (m <<< e.toNat >>> (-e).toNat) : Nat) := by
  obtain ⟨pos, unpacked⟩ := h.unpacked
  exact wholeNumber_of_positive unpacked

theorem exponentField_of_fraction (h : IsPositive x m e) (fraction : e < -52) : exponentField x < 1023 := by
  obtain ⟨-, bits, low, -, fits, normal⟩ := h
  unfold exponentField
  omega

theorem exponentField_eq (h : IsPositive x m e) (low : -52 ≤ e) : exponentField x = (e + 1075).toNat := by
  obtain ⟨-, bits, -, high, fits, normal⟩ := h
  unfold exponentField
  omega

theorem floatFloor_eq (h : IsPositive x m e) (low : -52 ≤ e) :
    floatFloor x = Float.ofBits (.ofNat (x.toBits.toNat - x.toBits.toNat % Nat.pow 2 (-e).toNat)) := by
  obtain ⟨-, bits, -, high, fits, -⟩ := id h
  have field := h.exponentField_eq low
  have exponent : 1075 - exponentField x = (-e).toNat := by omega
  exact floatFloor_of_positive (by omega) (by omega) (by rw [exponent])

theorem wholeShape_of_fraction (h : IsPositive x m e) (fraction : e < -52) :
    Beta.wholeShape x = wholeDouble (wholeNumber x) := by
  have left : e.toNat = 0 := by omega
  have none : m <<< e.toNat >>> (-e).toNat = 0 := by
    rw [left, Nat.shiftLeft_zero, Nat.shiftRight_eq_div_pow, Nat.div_eq_of_lt]
    exact Nat.lt_of_lt_of_le h.fits (Nat.pow_le_pow_right Nat.two_pos (show 53 ≤ _ by omega))
  refine wholeShape_eq_of_low (not_one_lt_floatFloor_of_fraction (h.exponentField_of_fraction fraction)) ?_
  rw [h.wholeNumber_eq, none, Nat.max_zero, Nat.cast_one]

theorem wholeShape_of_one (h : IsPositive x m (-52)) : Beta.wholeShape x = wholeDouble (wholeNumber x) := by
  obtain ⟨-, bits, -, -, fits, normal⟩ := id h
  have unit : m <<< (-52 : Int).toNat >>> (- -52 : Int).toNat = 1 := by
    change m <<< 0 >>> 52 = 1
    rw [Nat.shiftLeft_zero, Nat.shiftRight_eq_div_pow]
    omega
  have floor : x.toBits.toNat - x.toBits.toNat % Nat.pow 2 (- -52 : Int).toNat = 0x3FF0000000000000 := by
    change x.toBits.toNat - x.toBits.toNat % 0x10000000000000 = _
    omega
  refine wholeShape_eq_of_low ?_ ?_
  · rw [h.floatFloor_eq (by decide), floor]
    decide +kernel
  · rw [h.wholeNumber_eq, unit, Nat.max_self, Nat.cast_one]

theorem wholeDouble_eq (h : IsPositive x m e) (low : -51 ≤ e) : wholeDouble (wholeNumber x) =
    Float.ofBits (.ofNat (((e + 52).toNat + 1022) * 0x10000000000000 + (m - m % Nat.pow 2 (-e).toNat))) := by
  obtain ⟨-, -, -, -, fits, normal⟩ := id h
  have normal : 0x10000000000000 ≤ m := by omega
  rw [h.wholeNumber_eq, Nat.max_eq_right (one_le_shift low normal fits), wholeDouble_natCast,
    log2_shift low normal fits, shift_shift low]

theorem wholeShape_of_two_le (h : IsPositive x m e) (low : -51 ≤ e) :
    Beta.wholeShape x = wholeDouble (wholeNumber x) := by
  obtain ⟨-, bits, -, high, fits, normal⟩ := id h
  have unit : Nat.pow 2 (-e).toNat ≤ 0x8000000000000 := Nat.pow_le_pow_right Nat.two_pos (show _ ≤ 51 by omega)
  have rest : m % Nat.pow 2 (-e).toNat < Nat.pow 2 (-e).toNat := Nat.mod_lt _ (Nat.pow_pos Nat.two_pos)
  have floor : floatFloor x = wholeDouble (wholeNumber x) := by
    rw [h.floatFloor_eq (by omega), h.wholeDouble_eq low, mod_of_bits low bits]
    congr 2
    omega
  refine wholeShape_eq_of_high ?_ floor
  rw [floor, h.wholeDouble_eq low, lt_iff_place (by decide +kernel) (isNaN_ofBits (by omega) (by omega)),
    floatPlace_one, floatPlace_ofBits (by omega) (by omega), if_pos (by omega)]
  omega

theorem wholeShape_eq (h : IsPositive x m e) : Beta.wholeShape x = wholeDouble (wholeNumber x) := by
  rcases Int.lt_trichotomy e (-52) with below | rfl | above
  · exact h.wholeShape_of_fraction below
  · exact h.wholeShape_of_one
  · exact h.wholeShape_of_two_le (by omega)

end IsPositive

theorem wholeShape_eq_of_placed {x : Float} {u : UnpackedFloat} {k : Int} (unpacked : x.toModel.unpack = u)
    (here : (if x.toBits.toNat < 0x8000000000000000 then (x.toBits.toNat : Int)
      else -(x.toBits.toNat - 0x8000000000000000)) = k) (placed : Placed u k) :
    Beta.wholeShape x = wholeDouble (wholeNumber x) := by
  have width := x.toBits.toNat_lt
  cases placed with
  | zero sign =>
      have small : exponentField x < 1023 := by
        unfold exponentField
        split at here <;> omega
      exact wholeShape_eq_of_low (not_one_lt_floatFloor_of_fraction small) (by rw [wholeNumber, unpacked])
  | infinity sign =>
      cases sign with
      | positive =>
          have bits : x.toBits = 0x7FF0000000000000 := by
            apply UInt64.toNat_inj.1
            change x.toBits.toNat = 0x7FF0000000000000
            simp only [Sign.apply] at here
            split at here <;> omega
          have infinite : x = 1 / 0 := by
            rw [← Float.toBits_inj, bits]
            decide +kernel
          subst infinite
          decide +kernel
      | negative =>
          have negative : 0x8000000000000000 ≤ x.toBits.toNat := by
            simp only [Sign.apply] at here
            split at here <;> omega
          exact wholeShape_eq_of_low (not_one_lt_floatFloor_of_negative negative) (by rw [wholeNumber, unpacked])
  | finite sign pos low high fits normal =>
      cases sign with
      | positive =>
          simp only [Sign.apply] at here
          have positive : x.toBits.toNat < 0x8000000000000000 := by
            split at here <;> omega
          rw [if_pos positive] at here
          exact IsPositive.wholeShape_eq ⟨⟨pos, unpacked⟩, here, low, high, fits, normal⟩
      | negative =>
          have negative : 0x8000000000000000 ≤ x.toBits.toNat := by
            simp only [Sign.apply] at here
            split at here <;> omega
          exact wholeShape_eq_of_low (not_one_lt_floatFloor_of_negative negative) (wholeNumber_of_negative unpacked)

theorem wholeShape_eq (x : Float) : Beta.wholeShape x = wholeDouble (wholeNumber x) := by
  by_cases nan : x.isNaN = true
  · rw [Float.isNaN_eq_decide_eq_nan, decide_eq_true_iff] at nan
    subst nan
    decide +kernel
  · exact wholeShape_eq_of_placed rfl rfl (placed_unpack x.toModel.toBits.toBitVec (Bool.eq_false_of_not_eq_true nan))

theorem one_le_wholeNumber (x : Float) : 1 ≤ wholeNumber x := by
  rw [wholeNumber]
  split
  · exact le_top
  · exact_mod_cast Nat.le_max_left ..
  all_goals exact le_rfl

theorem wholeDouble_of_small : ∀ n < 65, 0 < n →
    wholeDouble (n : Nat) ≤ Beta.sumLimit ∧ Scalar.toNat (wholeDouble (n : Nat)) = n := by
  decide +kernel

end CrossEntropy
