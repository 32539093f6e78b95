import Mathlib.Probability.Distributions.Beta

namespace CrossEntropy
open MeasureTheory ProbabilityTheory

variable {a b : ℝ}

theorem betaPDFReal_nonneg (ha : 0 < a) (hb : 0 < b) (x : ℝ) : 0 ≤ betaPDFReal a b x := by
  by_cases inside : 0 < x ∧ x < 1
  · exact (betaPDFReal_pos inside.1 inside.2 ha hb).le
  · exact (if_neg inside).ge

theorem integrable_betaPDFReal (ha : 0 < a) (hb : 0 < b) : Integrable (betaPDFReal a b) := by
  refine ⟨(stronglyMeasurable_betaPDFReal a b).aestronglyMeasurable, ?_⟩
  rw [hasFiniteIntegral_iff_ofReal (.of_forall (betaPDFReal_nonneg ha hb))]
  exact (lintegral_betaPDF_eq_one ha hb).trans_lt ENNReal.one_lt_top

theorem integral_betaPDFReal (ha : 0 < a) (hb : 0 < b) : ∫ x, betaPDFReal a b x = 1 := by
  rw [integral_eq_lintegral_of_nonneg_ae (.of_forall (betaPDFReal_nonneg ha hb))
    (stronglyMeasurable_betaPDFReal a b).aestronglyMeasurable]
  exact congrArg ENNReal.toReal (lintegral_betaPDF_eq_one ha hb)

theorem beta_add_one (ha : 0 < a) (hb : 0 < b) : beta (a + 1) b = a / (a + b) * beta a b := by
  rw [beta, beta, Real.Gamma_add_one ha.ne', add_right_comm, Real.Gamma_add_one (add_pos ha hb).ne']
  field_simp

theorem mul_betaPDFReal (ha : 0 < a) (hb : 0 < b) (x : ℝ) :
    x * betaPDFReal a b x = a / (a + b) * betaPDFReal (a + 1) b x := by
  by_cases inside : 0 < x ∧ x < 1
  · have raised : x ^ (a + 1 - 1) = x * x ^ (a - 1) := by
      rw [add_sub_cancel_right, mul_comm, ← Real.rpow_add_one inside.1.ne', sub_add_cancel]
    have mass := (beta_pos ha hb).ne'
    rw [betaPDFReal, betaPDFReal, if_pos inside, if_pos inside, raised, beta_add_one ha hb]
    field_simp
  · rw [betaPDFReal, betaPDFReal, if_neg inside, if_neg inside, mul_zero, mul_zero]

theorem integral_betaMeasure (ha : 0 < a) (hb : 0 < b) (f : ℝ → ℝ) :
    ∫ x, f x ∂betaMeasure a b = ∫ x, betaPDFReal a b x * f x := by
  have measurable : Measurable (betaPDF a b) := (measurable_betaPDFReal a b).ennreal_ofReal
  have finite : ∀ᵐ x, betaPDF a b x < ⊤ := .of_forall fun _ => ENNReal.ofReal_lt_top
  rw [betaMeasure, integral_withDensity_eq_integral_toReal_smul measurable finite]
  exact integral_congr_ae (.of_forall fun x =>
    congrArg (· * f x) (ENNReal.toReal_ofReal (betaPDFReal_nonneg ha hb x)))

theorem mean_betaMeasure (ha : 0 < a) (hb : 0 < b) : ∫ x, x ∂betaMeasure a b = a / (a + b) := by
  rw [integral_betaMeasure ha hb]
  simp only [mul_comm (betaPDFReal a b _), mul_betaPDFReal ha hb]
  rw [integral_const_mul, integral_betaPDFReal (by positivity) hb, mul_one]

theorem variance_betaMeasure (ha : 0 < a) (hb : 0 < b) :
    ∫ x, (x - a / (a + b)) ^ 2 ∂betaMeasure a b = a * b / ((a + b) ^ 2 * (a + b + 1)) := by
  have next : 0 < a + 1 := by positivity
  have expand (x : ℝ) : betaPDFReal a b x * (x - a / (a + b)) ^ 2 =
      a / (a + b) * ((a + 1) / (a + 1 + b)) * betaPDFReal (a + 1 + 1) b x -
        2 * (a / (a + b)) ^ 2 * betaPDFReal (a + 1) b x + (a / (a + b)) ^ 2 * betaPDFReal a b x := by
    have first := mul_betaPDFReal ha hb x
    have second := mul_betaPDFReal next hb x
    linear_combination (x - 2 * (a / (a + b))) * first + a / (a + b) * second
  have lower := (integrable_betaPDFReal ha hb).const_mul ((a / (a + b)) ^ 2)
  have middle := (integrable_betaPDFReal next hb).const_mul (2 * (a / (a + b)) ^ 2)
  have upper := (integrable_betaPDFReal (a := a + 1 + 1) (by positivity) hb).const_mul
    (a / (a + b) * ((a + 1) / (a + 1 + b)))
  rw [integral_betaMeasure ha hb]
  simp only [expand]
  rw [integral_add (upper.sub' middle) lower, integral_sub upper middle, integral_const_mul, integral_const_mul,
    integral_const_mul, integral_betaPDFReal (by positivity) hb, integral_betaPDFReal next hb,
    integral_betaPDFReal ha hb]
  field_simp
  ring

end CrossEntropy
