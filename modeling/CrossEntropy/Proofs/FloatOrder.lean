import CrossEntropy.Search.Score

namespace CrossEntropy
open Float.Model UnpackedFloat

/-- The place of a double that is a number among all of them. -/
def floatPlace (x : Float) : Int :=
  if x.toBits.toNat < 0x8000000000000000 then x.toBits.toNat else -(x.toBits.toNat - 0x8000000000000000 : Int)

/-- The place of a number taken apart, when its mantissa has as many bits as its exponent allows. -/
inductive Placed : UnpackedFloat → Int → Prop
  | zero (sign : Sign) : Placed (.zero sign) 0
  | infinity (sign : Sign) : Placed (.infinity sign) (sign.apply (0x7FF0000000000000))
  | finite (sign : Sign) {m : Nat} {e : Int} (pos : 0 < m) (low : -1074 ≤ e) (high : e ≤ 971)
      (fits : m < 0x20000000000000) (normal : e = -1074 ∨ 0x10000000000000 ≤ m) :
      Placed (.finite sign m e pos) (sign.apply ((e + 1074) * 0x10000000000000 + m))

theorem Placed.of_eq (sign : Sign) {m : Nat} {e k : Int} (pos : 0 < m) (eq : k = (e + 1074) * 0x10000000000000 + m)
    (low : -1074 ≤ e) (high : e ≤ 971) (fits : m < 0x20000000000000) (normal : e = -1074 ∨ 0x10000000000000 ≤ m) :
    Placed (.finite sign m e pos) (sign.apply k) :=
  eq ▸ .finite sign pos low high fits normal

theorem compare_magnitudes {m n : Nat} {e f : Int} (he : -1074 ≤ e) (hf : -1074 ≤ f) (hm : m < 0x20000000000000)
    (hn : n < 0x20000000000000) (em : e = -1074 ∨ 0x10000000000000 ≤ m) (fn : f = -1074 ∨ 0x10000000000000 ≤ n) :
    (compare e f).then (compare m n) =
      compare ((e + 1074) * 0x10000000000000 + m) ((f + 1074) * 0x10000000000000 + n) := by
  rcases Int.lt_trichotomy e f with lt | rfl | gt
  · rw [Int.compare_eq_lt.2 lt, Int.compare_eq_lt.2 (by omega)]
    rfl
  · rw [Int.compare_eq_eq.2 rfl]
    rcases Nat.lt_trichotomy m n with lt | rfl | gt
    · rw [Nat.compare_eq_lt.2 lt, Int.compare_eq_lt.2 (by omega)]
      rfl
    · rw [Nat.compare_eq_eq.2 rfl, Int.compare_eq_eq.2 rfl]
      rfl
    · rw [Nat.compare_eq_gt.2 gt, Int.compare_eq_gt.2 (by omega)]
      rfl
  · rw [Int.compare_eq_gt.2 gt, Int.compare_eq_gt.2 (by omega)]
    rfl

theorem compare_neg (a b : Int) : compare (-a) (-b) = (compare a b).swap := by
  rcases Int.lt_trichotomy a b with lt | rfl | gt
  · rw [Int.compare_eq_lt.2 lt, Int.compare_eq_gt.2 (by omega)]
    rfl
  · rw [Int.compare_eq_eq.2 rfl, Int.compare_eq_eq.2 rfl]
    rfl
  · rw [Int.compare_eq_gt.2 gt, Int.compare_eq_lt.2 (by omega)]
    rfl

theorem compare_of_placed {u v : UnpackedFloat} {k l : Int} (hu : Placed u k) (hv : Placed v l) :
    u.compare v = some (compare k l) := by
  have before {a b : Int} (lt : a < b) : some Ordering.lt = some (compare a b) := by
    rw [Int.compare_eq_lt.2 lt]
  have after {a b : Int} (gt : b < a) : some Ordering.gt = some (compare a b) := by
    rw [Int.compare_eq_gt.2 gt]
  cases hu with
  | zero =>
      cases hv with
      | zero => rfl
      | infinity sign => cases sign <;> rfl
      | finite sign =>
          cases sign with
          | positive => exact before (by simp only [Sign.apply]; omega)
          | negative => exact after (by simp only [Sign.apply]; omega)
  | infinity sign =>
      cases hv with
      | zero => cases sign <;> rfl
      | infinity sign' => cases sign <;> cases sign' <;> rfl
      | finite sign' =>
          cases sign with
          | positive => exact after (by cases sign' <;> simp only [Sign.apply] <;> omega)
          | negative => exact before (by cases sign' <;> simp only [Sign.apply] <;> omega)
  | finite sign pos low high fits normal =>
      cases hv with
      | zero =>
          cases sign with
          | positive => exact after (by simp only [Sign.apply]; omega)
          | negative => exact before (by simp only [Sign.apply]; omega)
      | infinity sign' =>
          cases sign' with
          | positive => cases sign <;> exact before (by simp only [Sign.apply]; omega)
          | negative => cases sign <;> exact after (by simp only [Sign.apply]; omega)
      | finite sign' pos' low' high' fits' normal' =>
          have magnitudes := compare_magnitudes low low' fits fits' normal normal'
          cases sign with
          | positive =>
              cases sign' with
              | positive => exact congrArg some magnitudes
              | negative => exact after (by simp only [Sign.apply]; omega)
          | negative =>
              cases sign' with
              | positive => exact before (by simp only [Sign.apply]; omega)
              | negative =>
                  change some (Ordering.then _ _).swap = some (compare (-_) (-_))
                  rw [magnitudes, compare_neg]

theorem toNat_unpackMantissa (b : BitVec 64) :
    (@unpackMantissa Format.binary64 b).toNat = b.toNat % 0x10000000000000 := by
  change (b.extractLsb 51 0).toNat = _
  rw [BitVec.extractLsb_toNat]
  rfl

theorem toNat_unpackExponent (b : BitVec 64) :
    (@unpackExponent Format.binary64 b).toNat = b.toNat / 0x10000000000000 % 2048 := by
  change (b.extractLsb 62 52).toNat = _
  rw [BitVec.extractLsb_toNat, Nat.shiftRight_eq_div_pow]

theorem apply_unpackSign (b : BitVec 64) :
    (Sign.ofBitVec (@unpackSign Format.binary64 b)).apply (b.toNat % 0x8000000000000000 : Nat) =
      if b.toNat < 0x8000000000000000 then (b.toNat : Int) else -(b.toNat - 0x8000000000000000) := by
  have bound := b.isLt
  have toNat : (@unpackSign Format.binary64 b).toNat = b.toNat / 0x8000000000000000 % 2 := by
    change (b.extractLsb 63 63).toNat = _
    rw [BitVec.extractLsb_toNat, Nat.shiftRight_eq_div_pow]
  by_cases positive : b.toNat < 0x8000000000000000
  · have zero : @unpackSign Format.binary64 b = 0#1 := by
      apply BitVec.eq_of_toNat_eq
      rw [toNat, BitVec.toNat_ofNat]
      omega
    rw [Sign.ofBitVec, if_pos zero, if_pos positive, Sign.apply, Nat.mod_eq_of_lt positive]
  · have one : @unpackSign Format.binary64 b ≠ 0#1 := by
      intro zero
      rw [zero, BitVec.toNat_ofNat] at toNat
      omega
    rw [Sign.ofBitVec, if_neg one, if_neg positive, Sign.apply]
    omega

theorem apply_zero (sign : Sign) : sign.apply (0 : Nat) = 0 := by
  cases sign <;> rfl

theorem placed_unpack (b : BitVec 64) (number : (UnpackedFloat.unpack Format.binary64 b).isNaN = false) :
    Placed (UnpackedFloat.unpack Format.binary64 b)
      (if b.toNat < 0x8000000000000000 then (b.toNat : Int) else -(b.toNat - 0x8000000000000000)) := by
  have bound := b.isLt
  have mantissa := toNat_unpackMantissa b
  have exponent := toNat_unpackExponent b
  have bias : Format.binary64.exponentBias = 1023 := rfl
  rw [← apply_unpackSign]
  unfold UnpackedFloat.unpack at number ⊢
  dsimp only at number ⊢
  by_cases top : @unpackExponent Format.binary64 b = -1#11
  · rw [if_pos top] at number ⊢
    rw [top] at exponent
    by_cases whole : @unpackMantissa Format.binary64 b = 0#52
    · rw [if_pos whole]
      rw [whole] at mantissa
      have magnitude : b.toNat % 0x8000000000000000 = 0x7FF0000000000000 := by
        simp only [BitVec.toNat_ofNat, BitVec.toNat_neg] at mantissa exponent
        omega
      rw [magnitude]
      exact .infinity _
    · rw [if_neg whole] at number
      cases number
  · rw [if_neg top]
    have below : (@unpackExponent Format.binary64 b).toNat ≠ 2047 := fun h => top (BitVec.eq_of_toNat_eq h)
    by_cases subnormal : @unpackExponent Format.binary64 b = 0#11
    · rw [if_pos subnormal]
      rw [subnormal] at exponent
      by_cases whole : @unpackMantissa Format.binary64 b = 0#52
      · rw [dif_pos whole]
        rw [whole] at mantissa
        have magnitude : b.toNat % 0x8000000000000000 = 0 := by
          simp only [BitVec.toNat_ofNat] at mantissa exponent
          omega
        rw [magnitude, apply_zero]
        exact .zero _
      · rw [dif_neg whole]
        have positive : (@unpackMantissa Format.binary64 b).toNat ≠ 0 := fun h => whole (BitVec.eq_of_toNat_eq h)
        rw [BitVec.toNat_ofNat, Nat.zero_mod] at exponent
        rw [subnormal, bias, BitVec.toNat_ofNat, Nat.zero_mod]
        apply Placed.of_eq
        · omega
        · omega
        · omega
        · omega
        · exact .inl rfl
    · rw [if_neg subnormal]
      have positive : (@unpackExponent Format.binary64 b).toNat ≠ 0 := fun h => subnormal (BitVec.eq_of_toNat_eq h)
      have implicit : (1#1 ++ @unpackMantissa Format.binary64 b).toNat =
          0x10000000000000 + (@unpackMantissa Format.binary64 b).toNat := by
        rw [BitVec.toNat_append, BitVec.toNat_ofNat, ← Nat.shiftLeft_add_eq_or_of_lt (BitVec.isLt _)]
        simp
      rw [bias]
      apply Placed.of_eq
      · rw [implicit]
        omega
      · omega
      · omega
      · omega
      · omega

theorem compare_eq {x y : Float} (hx : x.isNaN = false) (hy : y.isNaN = false) :
    x.toModel.compare y.toModel = some (compare (floatPlace x) (floatPlace y)) :=
  compare_of_placed (placed_unpack x.toModel.toBits.toBitVec hx) (placed_unpack y.toModel.toBits.toBitVec hy)

theorem Placed.le_infinity {u : UnpackedFloat} {k : Int} (h : Placed u k) : k ≤ 0x7FF0000000000000 := by
  cases h with
  | zero => decide
  | infinity sign => cases sign <;> decide
  | finite sign => cases sign <;> simp only [Sign.apply] <;> omega

theorem compare_of_isNaN {x y : Float} (nan : x.isNaN = true ∨ y.isNaN = true) :
    x.toModel.compare y.toModel = none := by
  have notANumber {u : UnpackedFloat} (h : u.isNaN = true) : u = .notANumber := by
    cases u with
    | notANumber => rfl
    | infinity | zero | finite => cases h
  change UnpackedFloat.compare x.toModel.unpack y.toModel.unpack = none
  rcases nan with nan | nan
  · rw [notANumber nan]
    rfl
  · rw [notANumber nan]
    cases x.toModel.unpack <;> rfl

theorem lt_iff_compare {x y : Float} : x < y ↔ x.toModel.compare y.toModel = some .lt := by
  change decide ((x.toModel.compare y.toModel == some .lt) = true) = true ↔ _
  rw [decide_eq_true_iff, beq_iff_eq]

theorem le_iff_compare {x y : Float} : x ≤ y ↔ (x.toModel.compare y.toModel).any (·.isLE) = true := by
  change decide ((x.toModel.compare y.toModel).any (·.isLE) = true) = true ↔ _
  rw [decide_eq_true_iff]

theorem lt_iff_place {x y : Float} (hx : x.isNaN = false) (hy : y.isNaN = false) :
    x < y ↔ floatPlace x < floatPlace y := by
  rw [lt_iff_compare, compare_eq hx hy, Option.some.injEq, Int.compare_eq_lt]

theorem le_iff_place {x y : Float} (hx : x.isNaN = false) (hy : y.isNaN = false) :
    x ≤ y ↔ floatPlace x ≤ floatPlace y := by
  rw [le_iff_compare, compare_eq hx hy, Option.any_some, Int.isLE_compare]

theorem beq_iff_place {x y : Float} (hx : x.isNaN = false) (hy : y.isNaN = false) :
    (x == y) = true ↔ floatPlace x = floatPlace y := by
  change (x.toModel.compare y.toModel == some .eq) = true ↔ _
  rw [beq_iff_eq, compare_eq hx hy, Option.some.injEq, Int.compare_eq_eq]

theorem number_of_le {x y : Float} (le : x ≤ y) : x.isNaN = false ∧ y.isNaN = false := by
  by_cases nan : x.isNaN = true ∨ y.isNaN = true
  · rw [le_iff_compare, compare_of_isNaN nan] at le
    cases le
  · simpa using nan

theorem number_of_lt {x y : Float} (lt : x < y) : x.isNaN = false ∧ y.isNaN = false := by
  by_cases nan : x.isNaN = true ∨ y.isNaN = true
  · rw [lt_iff_compare, compare_of_isNaN nan] at lt
    cases lt
  · simpa using nan

theorem float_lt_trans {x y z : Float} (below : x < y) (above : y < z) : x < z := by
  obtain ⟨hx, hy⟩ := number_of_lt below
  obtain ⟨-, hz⟩ := number_of_lt above
  exact (lt_iff_place hx hz).2 (Int.lt_trans ((lt_iff_place hx hy).1 below) ((lt_iff_place hy hz).1 above))

theorem float_le_refl {x : Float} (number : x.isNaN = false) : x ≤ x :=
  (le_iff_place number number).2 (Int.le_refl _)

theorem float_le_trans {x y z : Float} (below : x ≤ y) (above : y ≤ z) : x ≤ z := by
  obtain ⟨hx, hy⟩ := number_of_le below
  obtain ⟨-, hz⟩ := number_of_le above
  exact (le_iff_place hx hz).2 (Int.le_trans ((le_iff_place hx hy).1 below) ((le_iff_place hy hz).1 above))

theorem float_le_of_lt {x y : Float} (hx : x.isNaN = false) (hy : y.isNaN = false) (lt : x < y) : x ≤ y :=
  (le_iff_place hx hy).2 (Int.le_of_lt ((lt_iff_place hx hy).1 lt))

theorem float_le_of_not_lt {x y : Float} (hx : x.isNaN = false) (hy : y.isNaN = false) (le : ¬y < x) : x ≤ y := by
  rw [lt_iff_place hy hx] at le
  exact (le_iff_place hx hy).2 (Int.not_lt.1 le)

theorem isNaN_infinity : (1.0 / 0.0 : Float).isNaN = false := by
  decide +kernel

theorem float_le_infinity {x : Float} (number : x.isNaN = false) : x ≤ 1.0 / 0.0 := by
  have top : floatPlace (1.0 / 0.0) = 0x7FF0000000000000 := by decide +kernel
  rw [le_iff_place number isNaN_infinity, top]
  exact (placed_unpack x.toModel.toBits.toBitVec number).le_infinity

end CrossEntropy
