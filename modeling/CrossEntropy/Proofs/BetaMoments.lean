import CrossEntropy.Proofs.BetaDistribution
import CrossEntropy.Proofs.SampleMoments
import CrossEntropy.Proofs.Positivity

namespace CrossEntropy
open Finset MeasureTheory ProbabilityTheory

noncomputable def sampleMean (count : Nat) (x : Nat → ℝ) : ℝ := (∑ i ∈ range count, x i) / count

noncomputable def sampleVariance (count : Nat) (x : Nat → ℝ) : ℝ :=
  if count = 1 then 0 else (∑ i ∈ range count, (x i - sampleMean count x) ^ 2) / (count - 1)

variable {count : Nat} {x : Nat → ℝ}

theorem sum_map_range (count : Nat) (f : Nat → ℝ) : ((List.range count).map f).sum = ∑ i ∈ range count, f i := rfl

theorem mean_map_range (count : Nat) (x : Nat → ℝ) : mean ((List.range count).map x) = sampleMean count x := by
  rw [mean_eq, sum_map_range, List.length_map, List.length_range, sampleMean]

theorem variance_map_range (some : 0 < count) (x : Nat → ℝ) :
    variance ((List.range count).map x) = sampleVariance count x := by
  have length : ((List.range count).map x).length = count := by rw [List.length_map, List.length_range]
  by_cases single : count = 1
  · rw [sampleVariance, if_pos single, variance, length, if_neg (by omega)]
  · rw [sampleVariance, if_neg single, variance_eq (by omega), length, mean_map_range, List.map_map, sum_map_range]
    rfl

namespace Beta
variable {m v a b : ℝ} {elite : Tensor ℝ} {current : Beta ℝ}

/-- Positive shapes of a Beta distribution with the mean and the variance. -/
structure HasMoments (m v a b : ℝ) : Prop where
  alpha : 0 < a
  beta : 0 < b
  mean : a / (a + b) = m
  variance : a * b / ((a + b) ^ 2 * (a + b + 1)) = v
  expected : ∫ x, x ∂betaMeasure a b = m
  deviation : ∫ x, (x - m) ^ 2 ∂betaMeasure a b = v

theorem hasMoments_matchMoments {pair : ℝ × ℝ} (spread : 0 < v) (room : v < m * (1 - m)) :
    HasMoments m v (matchMoments m v pair).1 (matchMoments m v pair).2 := by
  have matched : matchMoments m v pair = (m * (m * (1 - m) / v - 1), (1 - m) * (m * (1 - m) / v - 1)) :=
    if_pos ⟨spread, room⟩
  obtain ⟨mean, rest, ratio⟩ := pos_of_room spread room
  rw [matched]
  dsimp only
  generalize shapes : m * (1 - m) / v - 1 = r at ratio
  have total : m * r + (1 - m) * r = r := by ring
  have mean_eq : m * r / (m * r + (1 - m) * r) = m := by rw [total, mul_div_cancel_right₀ m ratio.ne']
  have variance_eq : m * r * ((1 - m) * r) / ((m * r + (1 - m) * r) ^ 2 * (m * r + (1 - m) * r + 1)) = v := by
    have raised : r + 1 = m * (1 - m) / v := by rw [← shapes, sub_add_cancel]
    rw [total, raised]
    field_simp
  have alpha := mul_pos mean ratio
  have beta := mul_pos rest ratio
  refine ⟨alpha, beta, mean_eq, variance_eq, (mean_betaMeasure alpha beta).trans mean_eq, ?_⟩
  have deviation := variance_betaMeasure alpha beta
  rwa [mean_eq, variance_eq] at deviation

variable {columns : Nat}

theorem fit_of_no_rows (shaped : current.Shaped columns) (layout : elite.shape = [0, columns]) :
    fit elite current = .ok current := by
  have same : current.alpha.shape = current.beta.shape := shaped.alpha.trans shaped.beta.symm
  have width : elite.shape.tail = current.alpha.shape := by rw [layout, shaped.alpha]; rfl
  rw [fit, dif_pos same, if_pos width, if_pos (Tensor.extent_zero layout)]

theorem fit_of_unlevel (differ : current.alpha.shape ≠ current.beta.shape) :
    fit elite current = .error ⟨"alpha and beta", current.alpha.shape, current.beta.shape⟩ := dif_neg differ

theorem fit_of_width_ne (same : current.alpha.shape = current.beta.shape)
    (differ : elite.shape.tail ≠ current.alpha.shape) :
    fit elite current = .error ⟨"elite variables and params", elite.shape.tail, current.alpha.shape⟩ := by
  rw [fit, dif_pos same, if_neg differ]

theorem fit_eq_error_iff {alphas betas : Nat} (layout : elite.shape = [count, columns])
    (alpha : current.alpha.shape = [alphas]) (beta : current.beta.shape = [betas]) (e : ShapeMismatch) :
    fit elite current = .error e ↔
      (alphas ≠ betas ∧ e = ⟨"alpha and beta", [alphas], [betas]⟩) ∨
      (alphas = betas ∧ columns ≠ alphas ∧ e = ⟨"elite variables and params", [columns], [alphas]⟩) := by
  have width : elite.shape.tail = [columns] := by rw [layout]; rfl
  by_cases level : alphas = betas
  · subst level
    by_cases wide : columns = alphas
    · subst wide
      have fits : ∃ fitted, fit elite current = .ok fitted := by
        cases count with
        | zero => exact ⟨_, fit_of_no_rows ⟨alpha, beta⟩ layout⟩
        | succ count =>
            obtain ⟨fitted, fits, -⟩ := entries_of_fit ⟨alpha, beta⟩ layout
            exact ⟨fitted, fits⟩
      obtain ⟨fitted, fits⟩ := fits
      simp [fits]
    · rw [fit_of_width_ne (alpha.trans beta.symm) (by simpa [width, alpha] using wide), width, alpha]
      simp [wide, eq_comm]
  · rw [fit_of_unlevel (by simpa [alpha, beta] using level), alpha, beta]
    simp [level, eq_comm]

theorem updater_keeps {S σ : Type} {fitted : Beta ℝ} (shaped : current.Shaped columns) (level : fitted.Shaped columns)
    (smoothing : Smoothing ℝ) {s : State (Beta ℝ) S} (memory : σ) (params : s.params = current) :
    ∃ mixed, smoothing.updater fitted s memory = (.ok mixed, memory) ∧
      (∀ {i : List Nat}, current.alpha[i]? = some a → fitted.alpha[i]? = some a → mixed.alpha[i]? = some a) ∧
      ∀ {i : List Nat}, current.beta[i]? = some b → fitted.beta[i]? = some b → mixed.beta[i]? = some b := by
  obtain ⟨alpha, alphas, -, alphaEntries⟩ :=
    Tensor.mix?_of_shape_eq smoothing.weight (level.alpha.trans shaped.alpha.symm)
  obtain ⟨beta, betas, -, betaEntries⟩ :=
    Tensor.mix?_of_shape_eq smoothing.weight (level.beta.trans shaped.beta.symm)
  have whole (y : ℝ) : smoothing.weight * y + (1 - smoothing.weight) * y = y := by ring
  refine ⟨⟨alpha, beta⟩, ?_, fun here kept => ?_, fun here kept => ?_⟩
  · simp only [Smoothing.updater, Updater.mix, params, mix?_of_parts alphas betas]
  · rw [alphaEntries kept here, whole]
  · rw [betaEntries kept here, whole]

theorem moments_matched_or_kept {S σ : Type} {alphas betas : Nat} (layout : elite.shape = [count, columns])
    (alpha : current.alpha.shape = [alphas]) (beta : current.beta.shape = [betas]) :
    (∀ e, fit elite current = .error e ↔
      (alphas ≠ betas ∧ e = ⟨"alpha and beta", [alphas], [betas]⟩) ∨
      (alphas = betas ∧ columns ≠ alphas ∧ e = ⟨"elite variables and params", [columns], [alphas]⟩)) ∧
    (alphas = betas → columns = alphas → count = 0 → fit elite current = .ok current) ∧
    (alphas = betas → columns = alphas → 0 < count →
      ∃ fitted, fit elite current = .ok fitted ∧ fitted.Shaped columns ∧
        ∀ j < columns, ∃ (x : Nat → ℝ) (a b a' b' : ℝ), (∀ i < count, elite[[i, j]]? = some (x i)) ∧
          current.alpha[[j]]? = some a ∧ current.beta[[j]]? = some b ∧
          fitted.alpha[[j]]? = some a' ∧ fitted.beta[[j]]? = some b' ∧
          (0 < sampleVariance count x ∧ sampleVariance count x < sampleMean count x * (1 - sampleMean count x) →
            HasMoments (sampleMean count x) (sampleVariance count x) a' b') ∧
          (¬(0 < sampleVariance count x ∧ sampleVariance count x < sampleMean count x * (1 - sampleMean count x)) →
            a' = a ∧ b' = b ∧
              ∀ (smoothing : Smoothing ℝ) (s : State (Beta ℝ) S) (memory : σ), s.params = current →
                ∃ mixed, smoothing.updater fitted s memory = (.ok mixed, memory) ∧
                  mixed.alpha[[j]]? = some a ∧ mixed.beta[[j]]? = some b)) := by
  refine ⟨fit_eq_error_iff layout alpha beta, ?_, ?_⟩
  · rintro rfl rfl rfl
    exact fit_of_no_rows ⟨alpha, beta⟩ layout
  · rintro rfl rfl some
    obtain ⟨n, rfl⟩ := Nat.exists_eq_succ_of_ne_zero (Nat.ne_of_gt some)
    obtain ⟨fitted, fits, level, entries⟩ := entries_of_fit ⟨alpha, beta⟩ layout
    refine ⟨fitted, fits, level, fun j hj => ?_⟩
    obtain ⟨x, column, lane⟩ := Tensor.exists_lane_of_cons (i := [j]) layout some ⟨hj, trivial⟩
    have inside (p : Tensor ℝ) (shape : p.shape = [columns]) : ∃ y, p[[j]]? = .some y :=
      ⟨_, Tensor.getElem?_eq_some_iff.2 ⟨shape ▸ ⟨hj, trivial⟩, rfl⟩⟩
    obtain ⟨a, ha⟩ := inside current.alpha alpha
    obtain ⟨b, hb⟩ := inside current.beta beta
    obtain ⟨ha', hb'⟩ := entries ha hb
    rw [lane, mean_map_range, variance_map_range some] at ha' hb'
    refine ⟨x, a, b, _, _, column.entry, ha, hb, ha', hb',
      fun room => hasMoments_matchMoments room.1 room.2, fun none => ?_⟩
    have kept : matchMoments (sampleMean (n + 1) x) (sampleVariance (n + 1) x) (a, b) = (a, b) := if_neg none
    rw [kept] at ha' hb' ⊢
    refine ⟨rfl, rfl, fun smoothing s memory params => ?_⟩
    obtain ⟨mixed, mixes, alphas, betas⟩ := updater_keeps ⟨alpha, beta⟩ level smoothing memory params
    exact ⟨mixed, mixes, alphas ha ha', betas hb hb'⟩

theorem matched_and_kept :
    let elite : Tensor ℝ := ⟨[4, 2], #[0, 0, 1, 0, 1 / 2, 0, 1 / 2, 0], rfl⟩
    let current : Beta ℝ := ⟨.vector [1, 1], .vector [1, 0]⟩
    elite.shape = [4, 2] ∧ current.alpha.shape = [2] ∧ current.beta.shape = [2] ∧
      ∃ fitted, fit elite current = .ok fitted ∧
        (∃ a b, fitted.alpha[[0]]? = some a ∧ fitted.beta[[0]]? = some b ∧ HasMoments (1 / 2) (1 / 6) a b) ∧
        fitted.alpha[[1]]? = some 1 ∧ fitted.beta[[1]]? = some 0 := by
  intro elite current
  have layout : elite.shape = [4, 2] := rfl
  have alpha : current.alpha.shape = [2] := rfl
  have beta : current.beta.shape = [2] := rfl
  obtain ⟨-, -, fits⟩ := moments_matched_or_kept (S := Float) (σ := Unit) layout alpha beta
  obtain ⟨fitted, returned, -, fitting⟩ := fits rfl rfl (by decide)
  refine ⟨layout, alpha, beta, fitted, returned, ?_, ?_⟩
  · obtain ⟨x, _, _, a, b, values, -, -, here, there, matched, -⟩ := fitting 0 (by decide)
    have first : x 0 = 0 := Option.some.inj (values 0 (by decide)).symm
    have second : x 1 = 1 := Option.some.inj (values 1 (by decide)).symm
    have third : x 2 = 1 / 2 := Option.some.inj (values 2 (by decide)).symm
    have fourth : x 3 = 1 / 2 := Option.some.inj (values 3 (by decide)).symm
    have mean : sampleMean 4 x = 1 / 2 := by
      simp only [sampleMean, sum_range_succ, sum_range_zero, first, second, third, fourth]
      norm_num
    have variance : sampleVariance 4 x = 1 / 6 := by
      simp only [sampleVariance, mean, sum_range_succ, sum_range_zero, first, second, third, fourth]
      norm_num
    rw [mean, variance] at matched
    exact ⟨a, b, here, there, matched (by norm_num)⟩
  · obtain ⟨x, a, b, _, _, values, here, there, alpha', beta', -, kept⟩ := fitting 1 (by decide)
    have zero : ∀ i < 4, x i = 0 := fun i hi => by
      match i, hi with
      | 0, hi | 1, hi | 2, hi | 3, hi => exact Option.some.inj (values _ hi).symm
    have mean : sampleMean 4 x = 0 := by
      rw [sampleMean, sum_eq_zero fun i hi => zero i (mem_range.1 hi), zero_div]
    obtain ⟨rfl, rfl, -⟩ := kept fun room => by
      rw [mean, zero_mul] at room
      exact lt_asymm room.1 room.2
    exact ⟨alpha'.trans here.symm, beta'.trans there.symm⟩

end Beta
end CrossEntropy
