import CrossEntropy.Proofs.FamilyRuns

namespace CrossEntropy
variable {R : Type} [Scalar R]

namespace Tensor
variable {a cdf draws : Tensor R} {axis n : Nat} {i : List Nat}

omit [Scalar R] in
theorem checkAxis_of_extent (extent : cdf.shape[axis]? = some (n + 1)) : cdf.checkAxis axis = .ok () := by
  obtain ⟨below, length⟩ := extent_of_axis extent
  exact checkAxis_eq_ok below (length ▸ n.succ_pos)

omit [Scalar R] in
theorem checkAxis_eq_error_iff {e : PickError} : cdf.checkAxis axis = .error e ↔
    (cdf.rank ≤ axis ∧ e = .axisOutOfRange axis cdf.rank) ∨ (cdf.shape[axis]? = some 0 ∧ e = .emptyAxis axis) := by
  cases extent : cdf.shape[axis]? with
  | none =>
      have beyond : cdf.rank ≤ axis := List.getElem?_eq_none_iff.1 extent
      rw [checkAxis, if_pos beyond]
      simp [beyond, eq_comm]
  | some n =>
      obtain ⟨below, length⟩ := extent_of_axis extent
      have inside : ¬cdf.rank ≤ axis := Nat.not_le_of_lt below
      rw [checkAxis, if_neg inside, length]
      split <;> simp_all only [false_and, false_or, Except.error.injEq, reduceCtorEq, Option.some.injEq, true_and,
        eq_comm]

omit [Scalar R] in
theorem refused_or_extent (cdf : Tensor R) (axis : Nat) :
    (∃ e, cdf.checkAxis axis = .error e) ∨ ∃ n, cdf.shape[axis]? = some (n + 1) := by
  cases extent : cdf.shape[axis]? with
  | none => exact .inl ⟨_, checkAxis_eq_error_iff.2 (.inl ⟨List.getElem?_eq_none_iff.1 extent, rfl⟩)⟩
  | some n =>
      cases n with
      | zero => exact .inl ⟨_, checkAxis_eq_error_iff.2 (.inr ⟨extent, rfl⟩)⟩
      | succ n => exact .inr ⟨n, rfl⟩

theorem pickCdfWith_of_refused {e : PickError} (refused : cdf.checkAxis axis = .error e) :
    cdf.pickCdfWith axis draws = .error e := by
  rw [pickCdfWith, refused]
  rfl

theorem pickCdfWith_of_shape_ne (extent : cdf.shape[axis]? = some (n + 1))
    (other : draws.shape ≠ cdf.shape.eraseIdx axis) :
    cdf.pickCdfWith axis draws = .error (.drawShape (cdf.shape.eraseIdx axis) draws.shape) := by
  rw [pickCdfWith, checkAxis_of_extent extent]
  exact if_neg other

theorem exists_picked (extent : cdf.shape[axis]? = some (n + 1)) (fits : draws.shape = cdf.shape.eraseIdx axis) :
    ∃ picked, cdf.pickCdfWith axis draws = .ok picked ∧ picked.shape = cdf.shape.eraseIdx axis ∧
      ∀ {i : List Nat} {draw : R}, draws[i]? = some draw →
        picked[i]? = some (firstExceeding (cdf.lane axis i) draw) := by
  obtain ⟨below, length⟩ := extent_of_axis extent
  refine ⟨_, pickCdfWith_eq below (length ▸ n.succ_pos) fits, fits, fun drawn => ?_⟩
  obtain ⟨inside, rfl⟩ := getElem?_eq_some_iff.1 drawn
  exact getElem?_ofFn inside

theorem pickCdfWith_eq_error_iff (cdf : Tensor R) (axis : Nat) (draws : Tensor R) (e : PickError) :
    cdf.pickCdfWith axis draws = .error e ↔
      (cdf.rank ≤ axis ∧ e = .axisOutOfRange axis cdf.rank) ∨
      (cdf.shape[axis]? = some 0 ∧ e = .emptyAxis axis) ∨
      ((∃ n, cdf.shape[axis]? = some (n + 1)) ∧ draws.shape ≠ cdf.shape.eraseIdx axis ∧
        e = .drawShape (cdf.shape.eraseIdx axis) draws.shape) := by
  rcases cdf.refused_or_extent axis with ⟨e', refused⟩ | ⟨n, extent⟩
  · have none : ¬∃ n, cdf.shape[axis]? = some (n + 1) := fun ⟨n, extent⟩ => by
      cases (checkAxis_of_extent extent).symm.trans refused
    rw [pickCdfWith_of_refused refused, ← or_assoc, ← checkAxis_eq_error_iff, refused]
    simp [none]
  · obtain ⟨below, length⟩ := extent_of_axis extent
    have inside : ¬cdf.rank ≤ axis := Nat.not_le_of_lt below
    by_cases fits : draws.shape = cdf.shape.eraseIdx axis
    · rw [pickCdfWith_eq below (length ▸ n.succ_pos) fits]
      simp [inside, fits, extent]
    · rw [pickCdfWith_of_shape_ne extent fits]
      simp [inside, fits, extent, eq_comm]

/-- What sampling along an axis gives, where `cumulate` makes the cumulative values of a lane from its entries: one
of three errors, looked for in this order, or an array with the pick of each lane. -/
structure SampledAlong (a : Tensor R) (axis : Nat) (draws : Tensor R) (cumulate : (Nat → R) → Nat → R)
    (result : Except PickError (Tensor Nat)) : Prop where
  error : ∀ e, result = .error e ↔
    (a.rank ≤ axis ∧ e = .axisOutOfRange axis a.rank) ∨
    (a.shape[axis]? = some 0 ∧ e = .emptyAxis axis) ∨
    ((∃ n, a.shape[axis]? = some (n + 1)) ∧ draws.shape ≠ a.shape.eraseIdx axis ∧
      e = .drawShape (a.shape.eraseIdx axis) draws.shape)
  picks : ∀ {n}, a.shape[axis]? = some (n + 1) → draws.shape = a.shape.eraseIdx axis →
    ∃ picked, result = .ok picked ∧ picked.shape = a.shape.eraseIdx axis ∧
      (0 ∈ a.shape.eraseIdx axis → picked.toList = []) ∧
      ∀ {i}, Shape.InBounds (a.shape.eraseIdx axis) i → ∃ entries draw k,
        a.HasLane axis (n + 1) i entries ∧ draws[i]? = some draw ∧ picked[i]? = some k ∧
          IsPick (n + 1) (cumulate entries) draw k

omit [Scalar R] in
theorem toList_eq_nil_iff {α : Type} {b : Tensor α} : b.toList = [] ↔ b.shape.size = 0 := by
  rw [toList, Array.toList_eq_nil_iff, ← Array.size_eq_zero_iff, size_eq]

theorem sampledAlong_of_lanes {cumulate : (Nat → R) → Nat → R} (shape : cdf.shape = a.shape)
    (lanes : ∀ {n i entries}, a.shape[axis]? = some n → a.HasLane axis n i entries →
      cdf.lane axis i = (List.range n).map (cumulate entries)) (draws : Tensor R) :
    a.SampledAlong axis draws cumulate (cdf.pickCdfWith axis draws) where
  error e := by
    have refused := pickCdfWith_eq_error_iff cdf axis draws e
    rwa [rank, shape] at refused
  picks {n} extent fits := by
    obtain ⟨picked, sampled, same, picks⟩ := exists_picked (shape.symm ▸ extent) (shape.symm ▸ fits)
    rw [shape] at same
    refine ⟨picked, sampled, same, fun empty => ?_, fun {i} inside => ?_⟩
    · exact toList_eq_nil_iff.2 (same ▸ Shape.size_of_zero_mem empty)
    · obtain ⟨entries, lane⟩ := exists_lane extent n.succ_pos inside
      have drawn : draws[i]? = some (draws.get i (fits ▸ inside)) := getElem?_eq_some_iff.2 ⟨_, rfl⟩
      refine ⟨entries, _, _, lane, drawn, picks drawn, ?_⟩
      rw [lanes extent lane]
      exact isPick_firstExceeding n.succ_pos _ _

theorem sampledAlong_pickPmfWith (a : Tensor R) (axis : Nat) (draws : Tensor R) :
    a.SampledAlong axis draws runningSum (a.pickPmfWith axis draws) := by
  have shape : (a.cumsum axis).shape = a.shape := rfl
  exact sampledAlong_of_lanes shape (fun extent lane => (lane.cumsum extent).lane_eq extent) draws

theorem sampled_along_axis (a : Tensor R) (axis : Nat) (draws : Tensor R) :
    a.SampledAlong axis draws runningSum (a.pickPmfWith axis draws) ∧
      a.SampledAlong axis draws id (a.pickCdfWith axis draws) :=
  ⟨a.sampledAlong_pickPmfWith axis draws, sampledAlong_of_lanes rfl (fun extent lane => lane.lane_eq extent) draws⟩

end Tensor
end CrossEntropy
