import CrossEntropy.Family.Strategies
import CrossEntropy.Proofs.Frequencies
import CrossEntropy.Proofs.SampleMoments
import CrossEntropy.Proofs.SideBySide

namespace CrossEntropy

structure Tensor.Reordered {α : Type} (a b : Tensor α) : Prop where
  shape : b.shape = a.shape
  rows : a.rows.Perm b.rows

namespace Tensor
variable {α β : Type} {a b : Tensor α}

theorem lane_zero (a : Tensor α) (i : List Nat) : a.lane 0 i = a.rows.filterMap (·[i]?) := by
  have rows : a.rows = (List.finRange (a.extent 0)).map fun k : Fin (a.extent 0) => a.row k k.2 := List.ofFn_eq_map
  rw [lane, rows, List.filterMap_map, ← List.map_coe_finRange_eq_range, List.filterMap_map]
  apply List.filterMap_congr
  intro k _
  exact (getElem?_row k.2 i).symm

namespace Reordered

theorem extent (h : a.Reordered b) (axis : Nat) : b.extent axis = a.extent axis := by
  rw [Tensor.extent, Tensor.extent, h.shape]

theorem lane (h : a.Reordered b) (i : List Nat) : (a.lane 0 i).Perm (b.lane 0 i) := by
  rw [lane_zero, lane_zero]
  exact h.rows.filterMap _

theorem reduce (h : a.Reordered b) {f : List α → β} (unordered : ∀ {xs ys}, xs.Perm ys → f xs = f ys) :
    a.reduce 0 f = b.reduce 0 f := by
  have lanes (i : List Nat) : f (a.lane 0 i) = f (b.lane 0 i) := unordered (h.lane i)
  rw [Tensor.reduce, Tensor.reduce, h.shape]
  simp only [lanes]

theorem moments? {a b : Tensor ℝ} (h : a.Reordered b) : a.moments? = b.moments? := by
  rw [Tensor.moments?, Tensor.moments?, h.extent, h.reduce mean_perm, h.reduce variance_perm]

end Reordered

theorem tally_perm {R : Type} [Scalar R] (a : Tensor R) {places places' : List (List Nat)} (h : places.Perm places') :
    a.tally places = a.tally places' := by
  refine ext_getElem? ((shape_tally a places).trans (shape_tally a places').symm) fun _ => ?_
  rw [getElem?_tally, getElem?_tally, h.count_eq]

end Tensor

theorem Tensor.reordered_stack {α : Type} {shape : Shape} {rows rows' : List (Tensor α)} (order : rows.Perm rows')
    (same : ∀ r ∈ rows, r.shape = shape) (same' : ∀ r ∈ rows', r.shape = shape) :
    (stack shape rows same).Reordered (stack shape rows' same') where
  shape := congrArg (· :: shape) order.length_eq.symm
  rows := by rwa [rows_stack, rows_stack]

theorem Gaussian.fit?_reordered {elite elite' : Tensor ℝ} (h : elite.Reordered elite') : fit? elite = fit? elite' := by
  rw [fit?, fit?, h.moments?]

theorem Beta.fit_reordered {elite elite' : Tensor ℝ} (h : elite.Reordered elite') (current : Beta ℝ) :
    fit elite current = fit elite' current := by
  have means (i : List Nat) : mean (elite.lane 0 i) = mean (elite'.lane 0 i) := mean_perm (h.lane i)
  have variances (i : List Nat) : variance (elite.lane 0 i) = variance (elite'.lane 0 i) := variance_perm (h.lane i)
  simp only [fit, h.shape, h.extent, means, variances]

namespace Categorical
variable {R : Type} [Scalar R] {numValues : Nat}

theorem exists_refusal {elite : Tensor Nat} (unknown : ∃ row ∈ elite.rows, ∃ x ∈ row.toList, numValues ≤ x) :
    ∃ value, fit (R := R) elite numValues = .error (.indexOutOfBounds value [numValues]) := by
  obtain ⟨e, fails⟩ := (exists_fit_error_iff (R := R)).2 unknown
  obtain ⟨row, -, named⟩ := List.exists_of_findSome?_eq_some (fit_eq_error_iff.1 fails)
  obtain ⟨x, -, named⟩ := List.exists_of_findSome?_eq_some named
  obtain ⟨-, rfl⟩ := refusal_eq_some_iff.1 named
  exact ⟨x, fails⟩

/-- Failures that are the same, or refuse one unknown value or another. -/
inductive SameButValue : PickError → PickError → Prop
  | refl (e : PickError) : SameButValue e e
  | unknown (value value' numValues : Nat) :
      SameButValue (.indexOutOfBounds value [numValues]) (.indexOutOfBounds value' [numValues])

theorem fit_reordered {elite elite' : Tensor Nat} (h : elite.Reordered elite') (numValues : Nat) :
    ExceptRel SameButValue Eq (fit (R := R) elite numValues) (fit elite' numValues) := by
  by_cases known : ∀ row ∈ elite.rows, ∀ x ∈ row.toList, x < numValues
  · have known' : ∀ row ∈ elite'.rows, ∀ x ∈ row.toList, x < numValues :=
      fun row member => known row (h.rows.mem_iff.2 member)
    rw [fit, fit, countValues_eq_foldlM, countValues_eq_foldlM, h.extent, h.extent, foldlM_countSample _ known,
      foldlM_countSample _ known', Tensor.tally_perm _ (h.rows.flatMap_right places)]
    exact .ok rfl
  · simp only [not_forall, Nat.not_lt] at known
    obtain ⟨row, member, x, inside, unknown⟩ := known
    obtain ⟨value, fails⟩ := exists_refusal (R := R) ⟨row, member, x, inside, unknown⟩
    obtain ⟨value', fails'⟩ := exists_refusal (R := R) ⟨row, h.rows.mem_iff.1 member, x, inside, unknown⟩
    rw [fails, fails']
    exact .error (.unknown value value' numValues)

end Categorical
end CrossEntropy
