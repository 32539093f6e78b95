import CrossEntropy.Proofs.ExactArithmetic
import CrossEntropy.Moments

namespace CrossEntropy

theorem mean_eq (xs : List ℝ) : mean xs = xs.sum / xs.length := by
  rw [mean, List.sum_eq_foldl]

theorem mean_perm {xs ys : List ℝ} (h : xs.Perm ys) : mean xs = mean ys := by
  rw [mean_eq, mean_eq, h.sum_eq, h.length_eq]

theorem mean_map_add {xs : List ℝ} (some : xs ≠ []) (t : ℝ) : mean (xs.map (· + t)) = mean xs + t := by
  have positive : (xs.length : ℝ) ≠ 0 := Nat.cast_ne_zero.2 (List.length_eq_zero_iff.not.2 some)
  rw [mean_eq, mean_eq, List.sum_map_add, List.map_id', List.map_const', List.sum_replicate, nsmul_eq_mul,
    List.length_map, add_div, mul_div_cancel_left₀ t positive]

namespace Deviations

/-- The sum of squares is kept as the squares of the values less those of the mean. -/
theorem foldl_add (xs : List ℝ) :
    (xs.foldl add start).count = xs.length ∧ xs.length * (xs.foldl add start).mean = xs.sum ∧
      (xs.foldl add start).squares = (xs.map (· ^ 2)).sum - xs.length * (xs.foldl add start).mean ^ 2 := by
  induction xs using List.reverseRecOn with
  | nil => simp [start]
  | append_singleton xs x ih =>
      obtain ⟨count, total, squares⟩ := ih
      simp only [List.foldl_append, List.foldl_cons, List.foldl_nil, List.length_append, List.length_singleton,
        List.map_append, List.map_singleton, List.sum_append, List.sum_singleton, Nat.cast_add, Nat.cast_one]
      generalize xs.foldl add start = d at count total squares ⊢
      have moved : (xs.length + 1 : ℝ) * (d.add x).mean = xs.sum + x := by
        have positive : (xs.length : ℝ) + 1 ≠ 0 := by positivity
        simp only [add, count, Nat.cast_add, Nat.cast_one]
        field_simp
        linear_combination total
      have kept : (d.add x).squares = (x - (d.add x).mean) * (x - d.mean) + d.squares := rfl
      refine ⟨congrArg (· + 1) count, moved, ?_⟩
      rw [kept, squares]
      linear_combination ((d.add x).mean + d.mean) * (moved - total)

end Deviations

theorem sum_deviations (xs : List ℝ) :
    (xs.foldl Deviations.add .start).squares = (xs.map fun x => (x - mean xs) ^ 2).sum := by
  obtain ⟨-, total, squares⟩ := Deviations.foldl_add xs
  by_cases none : xs = []
  · subst none
    rfl
  · have positive : (xs.length : ℝ) ≠ 0 := by simpa using none
    have same : (xs.foldl Deviations.add .start).mean = mean xs := by
      rw [mean_eq, eq_div_iff positive, mul_comm, total]
    have expand (x m : ℝ) : (x - m) ^ 2 = x ^ 2 + (x * -(2 * m) + m ^ 2) := by ring
    rw [squares, ← same]
    simp only [expand, List.sum_map_add, List.sum_map_mul_right, List.map_id', List.map_const', List.sum_replicate,
      nsmul_eq_mul]
    linear_combination (-2 * (xs.foldl Deviations.add .start).mean) * total

theorem variance_eq {xs : List ℝ} (more : 1 < xs.length) :
    variance xs = (xs.map fun x => (x - mean xs) ^ 2).sum / (xs.length - 1) := by
  rw [variance, if_pos more, sum_deviations]

theorem variance_map_add (xs : List ℝ) (t : ℝ) : variance (xs.map (· + t)) = variance xs := by
  have length : (xs.map (· + t)).length = xs.length := List.length_map ..
  by_cases more : 1 < xs.length
  · have some : xs ≠ [] := List.ne_nil_of_length_pos (Nat.zero_lt_of_lt more)
    rw [variance_eq more, variance_eq (length.symm ▸ more), length, mean_map_add some, List.map_map]
    simp only [Function.comp_def, add_sub_add_right_eq_sub]
  · rw [variance, variance, if_neg more, if_neg (length.symm ▸ more)]

theorem variance_perm {xs ys : List ℝ} (h : xs.Perm ys) : variance xs = variance ys := by
  by_cases more : 1 < xs.length
  · rw [variance_eq more, variance_eq (h.length_eq ▸ more), mean_perm h, (h.map _).sum_eq, h.length_eq]
  · rw [variance, variance, if_neg more, if_neg (h.length_eq ▸ more)]

end CrossEntropy
