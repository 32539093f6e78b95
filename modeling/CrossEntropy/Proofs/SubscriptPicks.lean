import CrossEntropy.Proofs.AxisPicks
import CrossEntropy.Proofs.MixedRadix

namespace CrossEntropy.Tensor
variable {R : Type} {a : Tensor R} {k : Nat}

theorem getElem?_vector (xs : List R) (k : Nat) : (vector xs)[[k]]? = xs[k]? := by
  by_cases h : k < xs.length
  · have inside : (vector xs).shape.InBounds [k] := ⟨h, trivial⟩
    have place : Shape.offset (vector xs).shape [k] = k := by simp [vector, Shape.offset]
    rw [getElem?_eq_data inside, place]
    exact List.getElem?_toArray
  · have outside : ¬(vector xs).shape.InBounds [k] := fun inside => h inside.1
    rw [getElem?_eq_none outside, List.getElem?_eq_none (Nat.le_of_not_lt h)]

theorem length_toList_transpose (a : Tensor R) : a.transpose.toList.length = a.shape.size := by
  rw [toList, Array.length_toList, size_eq, shape_transpose, Shape.size_reverse]

theorem extent_of_flat (a : Tensor R) : (vector a.transpose.toList).shape[0]? = some a.shape.size :=
  congrArg some a.length_toList_transpose

theorem getElem?_toList_transpose (h : k < a.shape.size) : a.transpose.toList[k]? = a[a.shape.digits k]? := by
  have stored : k < a.transpose.data.size := by rwa [size_eq, shape_transpose, Shape.size_reverse]
  have inside : Shape.InBounds a.shape.reverse (Shape.subscript a.shape.reverse k) :=
    Shape.inBounds_subscript (by rwa [Shape.size_reverse])
  rw [toList, Array.getElem?_toList, Array.getElem?_eq_getElem stored, data_getElem]
  refine (congrArg some (get_ofFn inside)).trans ?_
  refine Eq.symm (getElem?_eq_some_iff.2 ⟨Shape.inBounds_digits h, ?_⟩)
  simp only [Shape.reverse_subscript h]

variable [Scalar R]

theorem pickSubscriptWith_of_empty (none : a.shape.size = 0) (draw : R) :
    a.pickSubscriptWith draw = .error (.emptyAxis 0) := by
  have extent := a.extent_of_flat
  rw [none] at extent
  have refused := ((sampledAlong_pickPmfWith _ 0 (scalar draw)).error _).2 (.inr (.inl ⟨extent, rfl⟩))
  rw [pickSubscriptWith, refused]
  rfl

theorem exists_pickSubscriptWith (pos : 0 < a.shape.size) (draw : R) :
    ∃ entries k, (∀ l < a.shape.size, a[a.shape.digits l]? = some (entries l)) ∧
      IsPick a.shape.size (runningSum entries) draw k ∧ a.pickSubscriptWith draw = .ok (a.shape.digits k) := by
  obtain ⟨n, size⟩ : ∃ n, a.shape.size = n + 1 := Nat.exists_eq_succ_of_ne_zero (Nat.ne_of_gt pos)
  have extent := size ▸ a.extent_of_flat
  obtain ⟨picked, sampled, -, -, picks⟩ := (sampledAlong_pickPmfWith _ 0 (scalar draw)).picks extent rfl
  obtain ⟨entries, drawn, k, lane, same, entry, pick⟩ := picks (i := []) trivial
  obtain rfl : draw = drawn := Option.some.inj same
  rw [← size] at lane pick
  refine ⟨entries, k, fun l hl => ?_, pick, ?_⟩
  · rw [← getElem?_toList_transpose hl, ← getElem?_vector]
    exact lane.entry l hl
  · rw [pickSubscriptWith, sampled]
    change a.shape.subscriptOfFlat (picked[([] : List Nat)]?.getD 0) = _
    rw [entry, Option.getD_some, Shape.subscriptOfFlat, if_pos pick.lt]

theorem subscript_of_draw (a : Tensor R) (draw : R) :
    (∀ e, a.pickSubscriptWith draw = .error e ↔ a.toList = [] ∧ e = .emptyAxis 0) ∧
    (a.toList ≠ [] → ∃ order entries k picked, a.shape.FirstFastest order ∧
      (∀ {l i}, order[l]? = some i → a[i]? = some (entries l)) ∧
      a.pickSubscriptWith draw = .ok picked ∧ a.shape.InBounds picked ∧ (a.rank = 0 → picked = []) ∧
      order[k]? = some picked ∧ IsPick order.length (runningSum entries) draw k) := by
  rcases Nat.eq_zero_or_pos a.shape.size with none | pos
  · have empty := toList_eq_nil_iff.2 none
    refine ⟨fun e => ?_, fun some => absurd empty some⟩
    simp [pickSubscriptWith_of_empty none, empty, eq_comm]
  · have some : a.toList ≠ [] := fun empty => Nat.ne_of_gt pos (toList_eq_nil_iff.1 empty)
    obtain ⟨entries, k, entry, pick, picked⟩ := exists_pickSubscriptWith pos draw
    refine ⟨fun e => by simp [picked, some], fun _ => ?_⟩
    have length : ((List.range a.shape.size).map a.shape.digits).length = a.shape.size := by simp
    refine ⟨_, entries, k, _, a.shape.firstFastest_digits, fun {l i} found => ?_, picked,
      Shape.inBounds_digits pick.lt, fun rank => ?_, by simp [pick.lt], length.symm ▸ pick⟩
    · obtain ⟨hl, rfl⟩ := List.getElem?_eq_some_iff.1 found
      rw [List.getElem_map, List.getElem_range]
      exact entry l (length ▸ hl)
    · rw [List.eq_nil_of_length_eq_zero rank]
      rfl

end CrossEntropy.Tensor
