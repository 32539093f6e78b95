import CrossEntropy.Proofs.BetaMoments
import CrossEntropy.Proofs.Reordering

namespace CrossEntropy
open Finset
variable {n : Nat} {x : Nat → ℝ}

theorem sampleVariance_of_one (x : Nat → ℝ) : sampleVariance 1 x = 0 := if_pos rfl

theorem mul_sampleVariance (several : 2 ≤ n) :
    (n - 1) * sampleVariance n x = ∑ k ∈ range n, (x k - sampleMean n x) ^ 2 := by
  have more : (1 : ℝ) < n := Nat.one_lt_cast.2 several
  rw [sampleVariance, if_neg (by omega), mul_div_cancel₀ _ (sub_ne_zero.2 more.ne')]

theorem sampleMean_of_equal (equal : ∀ k < n, ∀ l < n, x k = x l) {k : Nat} (hk : k < n) : sampleMean n x = x k := by
  have pos : (0 : ℝ) < n := Nat.cast_pos.2 (Nat.zero_lt_of_lt hk)
  rw [sampleMean, sum_congr rfl fun l hl => equal l (mem_range.1 hl) k hk, sum_const, card_range, nsmul_eq_mul,
    mul_div_cancel_left₀ _ pos.ne']

theorem sum_squares_eq_zero_iff :
    ∑ k ∈ range n, (x k - sampleMean n x) ^ 2 = 0 ↔ ∀ k < n, ∀ l < n, x k = x l := by
  rw [sum_eq_zero_iff_of_nonneg fun k _ => sq_nonneg _]
  simp only [mem_range, sq_eq_zero_iff, sub_eq_zero]
  constructor
  · intro all k hk l hl
    rw [all k hk, all l hl]
  · intro equal k hk
    exact (sampleMean_of_equal equal hk).symm

structure AreMoments (n : Nat) (x : Nat → ℝ) (m v : ℝ) : Prop where
  mean : m = (∑ k ∈ range n, x k) / n
  several : 2 ≤ n → (n - 1) * v = ∑ k ∈ range n, (x k - m) ^ 2
  single : n = 1 → v = 0
  nonneg : 0 ≤ v
  zero_iff : v = 0 ↔ ∀ k < n, ∀ l < n, x k = x l

theorem areMoments (pos : 0 < n) (x : Nat → ℝ) : AreMoments n x (sampleMean n x) (sampleVariance n x) := by
  rcases Nat.eq_or_lt_of_le pos with rfl | several
  · refine ⟨rfl, fun more => absurd more (by decide), fun _ => sampleVariance_of_one x, ?_, ?_⟩
    · exact (sampleVariance_of_one x).ge
    · refine ⟨fun _ k hk l hl => ?_, fun _ => sampleVariance_of_one x⟩
      rw [Nat.lt_one_iff.1 hk, Nat.lt_one_iff.1 hl]
  · have factor : (0 : ℝ) < n - 1 := sub_pos.2 (Nat.one_lt_cast.2 several)
    have squares := mul_sampleVariance (x := x) several
    refine ⟨rfl, fun _ => squares, fun one => absurd one (by omega), ?_, ?_⟩
    · apply nonneg_of_mul_nonneg_right _ factor
      rw [squares]
      exact sum_nonneg fun k _ => sq_nonneg _
    · rw [← sum_squares_eq_zero_iff, ← squares, mul_eq_zero_iff_left factor.ne']

namespace Tensor

theorem moments?_eq_none_iff {a : Tensor ℝ} : a.moments? = none ↔ a.rank = 0 ∨ a.shape[0]? = some 0 := by
  have empty : a.extent 0 = 0 ↔ a.rank = 0 ∨ a.shape[0]? = some 0 := by
    simp only [extent, rank]
    cases a.shape <;> simp
  rw [← empty, moments?]
  split <;> simp_all

end Tensor

theorem moments_of_each_variable (elite : Tensor ℝ) :
    (elite.moments? = none ↔ elite.rank = 0 ∨ elite.shape[0]? = some 0) ∧
    (Gaussian.fit? elite = none ↔ elite.rank = 0 ∨ elite.shape[0]? = some 0) ∧
    ∀ {n : Nat} {shape : Shape}, elite.shape = n :: shape → 0 < n →
      ∃ means variances deviations : Tensor ℝ,
        elite.moments? = some (means, variances) ∧ Gaussian.fit? elite = some ⟨means, deviations⟩ ∧
        means.shape = shape ∧ variances.shape = shape ∧ deviations.shape = shape ∧
        (∀ {i : List Nat}, shape.InBounds i → ∃ (x : Nat → ℝ) (m v s : ℝ), (∀ k < n, elite[k :: i]? = some (x k)) ∧
          means[i]? = some m ∧ variances[i]? = some v ∧ deviations[i]? = some s ∧
          AreMoments n x m v ∧ 0 ≤ s ∧ s ^ 2 = v) ∧
        ∀ {elite' : Tensor ℝ}, elite.Reordered elite' →
          elite'.moments? = some (means, variances) ∧ Gaussian.fit? elite' = some ⟨means, deviations⟩ := by
  refine ⟨Tensor.moments?_eq_none_iff, ?_, fun {n shape} shaped pos => ?_⟩
  · rw [Gaussian.fit?, Option.map_eq_none_iff, Tensor.moments?_eq_none_iff]
  · obtain ⟨n, rfl⟩ := Nat.exists_eq_succ_of_ne_zero pos.ne'
    obtain ⟨means, variances, found, hm, hv, entries⟩ := Tensor.exists_moments? shaped
    have fit : Gaussian.fit? elite = some ⟨means, variances.map Scalar.sqrt⟩ := by rw [Gaussian.fit?, found]; rfl
    refine ⟨means, variances, _, found, fit, hm, hv, hv, fun {i} inside => ?_, fun {elite'} order => ?_⟩
    · obtain ⟨x, column, lane⟩ := Tensor.exists_lane_of_cons shaped pos inside
      obtain ⟨mean, variance⟩ := entries inside
      rw [lane, mean_map_range] at mean
      rw [lane, variance_map_range pos] at variance
      have moments := areMoments pos x
      refine ⟨x, _, _, √(sampleVariance (n + 1) x), column.entry, mean, variance, ?_, moments, Real.sqrt_nonneg _,
        Real.sq_sqrt moments.nonneg⟩
      rw [Tensor.getElem?_map, variance]
      rfl
    · rw [← order.moments?, ← Gaussian.fit?_reordered order]
      exact ⟨found, fit⟩

def seesaw : List (Tensor ℝ) := [.vector [0, 1], .vector [1, 1], .vector [-1, 1]]

theorem shape_of_mem_seesaw : ∀ r ∈ seesaw, r.shape = [2] := by
  simp [seesaw, Tensor.vector]

theorem moments_of_seesaw :
    ∃ elite elite' means variances deviations : Tensor ℝ, elite.shape = [3, 2] ∧ 0 < 3 ∧ elite.Reordered elite' ∧
      elite.moments? = some (means, variances) ∧ Gaussian.fit? elite' = some ⟨means, deviations⟩ ∧
      means[[0]]? = some 0 ∧ variances[[0]]? = some 1 ∧ deviations[[0]]? = some 1 ∧ variances[[1]]? = some 0 := by
  have order := (List.reverse_perm seesaw).symm
  have reversed := Tensor.reordered_stack order shape_of_mem_seesaw fun r member =>
    shape_of_mem_seesaw r (List.mem_reverse.1 member)
  have layout : (Tensor.stack [2] seesaw shape_of_mem_seesaw).shape = [3, 2] := rfl
  obtain ⟨-, -, moments⟩ := moments_of_each_variable (.stack [2] seesaw shape_of_mem_seesaw)
  obtain ⟨means, variances, deviations, found, -, -, -, -, entries, unordered⟩ := moments layout (by decide)
  refine ⟨_, _, means, variances, deviations, layout, by decide, reversed, found, (unordered reversed).2, ?_⟩
  obtain ⟨x, m, v, s, values, hm, hv, hs, first, nonneg, root⟩ := entries (i := [0]) (by decide)
  obtain ⟨y, m', v', s', values', -, hv', -, second, -, -⟩ := entries (i := [1]) (by decide)
  have x0 : x 0 = 0 := Option.some.inj (values 0 (by decide)).symm
  have x1 : x 1 = 1 := Option.some.inj (values 1 (by decide)).symm
  have x2 : x 2 = -1 := Option.some.inj (values 2 (by decide)).symm
  have mean : m = 0 := by
    rw [first.mean]
    simp [sum_range_succ, x0, x1, x2]
  have variance : v = 1 := by
    have squares := first.several (by decide)
    simp only [mean, sum_range_succ, sum_range_zero, x0, x1, x2] at squares
    push_cast at squares
    linarith
  have deviation : s = 1 := by nlinarith
  have flat : v' = 0 := by
    refine second.zero_iff.2 fun k hk l hl => ?_
    have equal (k : Nat) (hk : k < 3) : y k = 1 := by
      match k, hk with
      | 0, hk | 1, hk | 2, hk => exact Option.some.inj (values' _ hk).symm
    rw [equal k hk, equal l hl]
  exact ⟨hm.trans (congrArg some mean), hv.trans (congrArg some variance), hs.trans (congrArg some deviation),
    hv'.trans (congrArg some flat)⟩

end CrossEntropy
