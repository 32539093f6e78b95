import CrossEntropy.Proofs.ExactArithmetic
import CrossEntropy.Proofs.Reordering
import CrossEntropy.Proofs.Stochastic

namespace CrossEntropy

theorem Tensor.forall_entry {α : Type} {a : Tensor α} {m n k j : Nat} {x : α} {P : α → Prop} (layout : a.shape = [m, n])
    (all : ∀ k < m, ∀ j < n, ∀ x ∈ a[[k, j]]?, P x) (entry : a[[k, j]]? = some x) : P x := by
  obtain ⟨inside, -⟩ := Tensor.getElem?_eq_some_iff.1 entry
  rw [layout] at inside
  exact all k inside.1 j inside.2.1 x entry

namespace Categorical
open Finset

theorem findSome?_eq_some_iff {α β : Type} {f : α → Option β} {xs : List α} {y : β} :
    xs.findSome? f = some y ↔
      ∃ (k : Nat) (x : α), xs[k]? = some x ∧ f x = some y ∧ ∀ l < k, ∀ z, xs[l]? = some z → f z = none := by
  rw [List.findSome?_eq_some_iff]
  constructor
  · rintro ⟨front, x, behind, rfl, found, before⟩
    refine ⟨front.length, x, by simp, found, fun l hl z here => before z ?_⟩
    rw [List.getElem?_append_left hl] at here
    exact List.mem_of_getElem? here
  · rintro ⟨k, x, here, found, before⟩
    obtain ⟨inside, rfl⟩ := List.getElem?_eq_some_iff.1 here
    refine ⟨xs.take k, xs[k], xs.drop (k + 1), by simp, found, fun z member => ?_⟩
    obtain ⟨l, hl, rfl⟩ := List.getElem_of_mem member
    rw [List.length_take, Nat.lt_min] at hl
    rw [List.getElem_take]
    exact before l hl.1 _ (List.getElem?_eq_getElem hl.2)

variable {R : Type} [Scalar R] {elite : Tensor Nat} {numValues n columns k j v : Nat} {e : PickError}

/-- The first value in row-major order that is not below a bound. -/
structure FirstUnknown (elite : Tensor Nat) (numValues k j x : Nat) : Prop where
  entry : elite[[k, j]]? = some x
  unknown : numValues ≤ x
  before : ∀ {l i y : Nat}, l < k ∨ l = k ∧ i < j → elite[[l, i]]? = some y → y < numValues

theorem exists_row {x : Nat} (layout : elite.shape = [n, columns]) (entry : elite[[k, j]]? = some x) :
    ∃ row, elite.rows[k]? = some row := by
  obtain ⟨bound, -⟩ := Tensor.getElem?_eq_some_iff.1 entry
  rw [layout] at bound
  have lt : k < elite.rows.length := by rw [Tensor.length_rows, Tensor.extent_zero layout]; exact bound.1
  exact ⟨_, List.getElem?_eq_getElem lt⟩

theorem exists_mem_rows_iff {x : Nat} (layout : elite.shape = [n, columns]) :
    (∃ row ∈ elite.rows, x ∈ row.toList) ↔ ∃ k j : Nat, elite[[k, j]]? = some x := by
  constructor
  · rintro ⟨row, member, found⟩
    obtain ⟨k, here⟩ := List.mem_iff_getElem?.1 member
    obtain ⟨j, value⟩ := List.mem_iff_getElem?.1 found
    rw [Tensor.getElem?_toList_of_row layout here] at value
    exact ⟨k, j, value⟩
  · rintro ⟨k, j, entry⟩
    obtain ⟨row, here⟩ := exists_row layout entry
    rw [← Tensor.getElem?_toList_of_row layout here] at entry
    exact ⟨row, List.mem_of_getElem? here, List.mem_of_getElem? entry⟩

theorem fit_eq_error_iff_first (layout : elite.shape = [n, columns]) :
    fit (R := R) elite numValues = .error e ↔
      ∃ k j x, FirstUnknown elite numValues k j x ∧ e = .indexOutOfBounds x [numValues] := by
  simp only [fit_eq_error_iff, findSome?_eq_some_iff, List.findSome?_eq_none_iff, refusal_eq_some_iff,
    refusal_eq_none_iff]
  constructor
  · rintro ⟨k, row, here, ⟨j, x, value, ⟨unknown, rfl⟩, left⟩, above⟩
    rw [Tensor.getElem?_toList_of_row layout here] at value
    refine ⟨k, j, x, ⟨value, unknown, ?_⟩, rfl⟩
    rintro l i y (higher | ⟨rfl, nearer⟩) entry
    · obtain ⟨row', there⟩ := exists_row layout entry
      rw [← Tensor.getElem?_toList_of_row layout there] at entry
      exact above l higher row' there y (List.mem_of_getElem? entry)
    · rw [← Tensor.getElem?_toList_of_row layout here] at entry
      exact left i nearer y entry
  · rintro ⟨k, j, x, ⟨value, unknown, before⟩, rfl⟩
    obtain ⟨row, here⟩ := exists_row layout value
    rw [← Tensor.getElem?_toList_of_row layout here] at value
    refine ⟨k, row, here, ⟨j, x, value, ⟨unknown, rfl⟩, fun i hi y entry => ?_⟩, fun l hl row' there y member => ?_⟩
    · rw [Tensor.getElem?_toList_of_row layout here] at entry
      exact before (.inr ⟨rfl, hi⟩) entry
    · obtain ⟨i, entry⟩ := List.mem_iff_getElem?.1 member
      rw [Tensor.getElem?_toList_of_row layout there] at entry
      exact before (.inl hl) entry

theorem exists_unknown_iff (layout : elite.shape = [n, columns]) :
    (∃ e, fit (R := R) elite numValues = .error e) ↔ ∃ k j x : Nat, elite[[k, j]]? = some x ∧ numValues ≤ x := by
  rw [exists_fit_error_iff]
  constructor
  · rintro ⟨row, member, x, found, unknown⟩
    obtain ⟨k, j, entry⟩ := (exists_mem_rows_iff layout).1 ⟨row, member, found⟩
    exact ⟨k, j, x, entry, unknown⟩
  · rintro ⟨k, j, x, entry, unknown⟩
    obtain ⟨row, member, found⟩ := (exists_mem_rows_iff layout).2 ⟨k, j, entry⟩
    exact ⟨row, member, x, found, unknown⟩

def occurrences (elite : Tensor Nat) (j v : Nat) : Nat := #{k ∈ range (elite.extent 0) | elite[[k, j]]? = some v}

theorem countP_rows (layout : elite.shape = [n, columns]) (j v : Nat) :
    elite.rows.countP (fun row => row.toList[j]? = some v) = occurrences elite j v := by
  have rows : elite.rows = (List.finRange (elite.extent 0)).map fun k : Fin (elite.extent 0) => elite.row k k.2 :=
    List.ofFn_eq_map
  have card : occurrences elite j v = (List.range (elite.extent 0)).countP fun k => elite[[k, j]]? = some v := by
    rw [List.countP_eq_length_filter]
    rfl
  rw [card, rows, List.countP_map, ← List.map_coe_finRange_eq_range, List.countP_map]
  apply List.countP_congr
  intro k _
  have here : elite.rows[k.1]? = some (elite.row k k.2) := by rw [Tensor.getElem?_rows, Tensor.row?, dif_pos k.2]
  simp [Tensor.getElem?_toList_of_row layout here]

theorem assignments_of_known (layout : elite.shape = [n, columns])
    (known : ∀ {k j x : Nat}, elite[[k, j]]? = some x → x < numValues) :
    ∀ row ∈ elite.rows, Assignment numValues columns row := by
  intro row member
  refine ⟨Tensor.shape_eq_of_mem_rows layout member, fun x found => ?_⟩
  obtain ⟨k, j, value⟩ := (exists_mem_rows_iff layout).1 ⟨row, member, found⟩
  exact known value

theorem sum_occurrences (layout : elite.shape = [n, columns])
    (known : ∀ {k j x : Nat}, elite[[k, j]]? = some x → x < numValues) (hj : j < columns) :
    ∑ v ∈ range numValues, occurrences elite j v = n := by
  have values : ∀ row ∈ elite.rows, ∃ v < numValues, row.toList[j]? = some v :=
    fun row member => (assignments_of_known layout known row member).exists_value hj
  simp only [← countP_rows layout]
  rw [sum_countP values, Tensor.length_rows, Tensor.extent_zero layout]

theorem exists_shares (layout : elite.shape = [n, columns])
    (known : ∀ {k j x : Nat}, elite[[k, j]]? = some x → x < numValues) :
    ∃ fitted : Tensor ℝ, fit elite numValues = .ok fitted ∧ fitted.shape = [numValues, columns] ∧
      ∀ {v j : Nat}, v < numValues → j < columns → fitted[[v, j]]? = some ((occurrences elite j v : ℝ) / n) := by
  cases n with
  | zero =>
      refine ⟨_, fit_of_rows_eq_nil layout, rfl, fun {v j} hv hj => ?_⟩
      have bound : Shape.InBounds [numValues, columns] [v, j] := ⟨hv, hj, trivial⟩
      rw [Tensor.getElem?_replicate bound, Nat.cast_zero, div_zero]
  | succ n =>
      obtain ⟨fitted, fits, shape, shares⟩ :=
        exists_fit (R := ℝ) layout fun row member => (assignments_of_known layout known row member).known
      refine ⟨fitted, fits, shape, fun {v j} hv hj => ?_⟩
      rw [shares hv hj, Tensor.addOnes_eq, zero_add, countP_rows layout]

theorem occurrences_of_no_rows (layout : elite.shape = [0, columns]) (j v : Nat) : occurrences elite j v = 0 := by
  rw [occurrences, Tensor.extent_zero layout]
  rfl

structure SharesOf (elite : Tensor Nat) (n numValues j : Nat) (r : Nat → ℝ) : Prop where
  share : ∀ v < numValues, n * r v = occurrences elite j v
  blank : n = 0 → ∀ v < numValues, r v = 0
  total : 0 < n → ∑ v ∈ range numValues, r v = 1

theorem sharesOf_occurrences (layout : elite.shape = [n, columns])
    (known : ∀ {k j x : Nat}, elite[[k, j]]? = some x → x < numValues) (hj : j < columns) :
    SharesOf elite n numValues j fun v => occurrences elite j v / n := by
  rcases Nat.eq_zero_or_pos n with rfl | pos
  · refine ⟨fun v _ => ?_, fun _ v _ => ?_, fun pos => absurd pos (Nat.lt_irrefl 0)⟩
    · rw [occurrences_of_no_rows layout, Nat.cast_zero, zero_mul]
    · rw [Nat.cast_zero, div_zero]
  · have count : (n : ℝ) ≠ 0 := Nat.cast_ne_zero.2 pos.ne'
    refine ⟨fun v _ => mul_div_cancel₀ _ count, fun none => absurd none pos.ne', fun _ => ?_⟩
    rw [← sum_div, ← Nat.cast_sum, sum_occurrences layout known hj, div_self count]

theorem shares_of_values (layout : elite.shape = [n, columns]) (numValues : Nat) :
    ((∃ e, fit (R := ℝ) elite numValues = .error e) ↔ ∃ k j x : Nat, elite[[k, j]]? = some x ∧ numValues ≤ x) ∧
    (∀ e, fit (R := ℝ) elite numValues = .error e ↔
      ∃ k j x, FirstUnknown elite numValues k j x ∧ e = .indexOutOfBounds x [numValues]) ∧
    ((∀ {k j x : Nat}, elite[[k, j]]? = some x → x < numValues) →
      ∃ fitted : Tensor ℝ, fit elite numValues = .ok fitted ∧ fitted.shape = [numValues, columns] ∧
        (∀ j < columns, ∃ r : Nat → ℝ,
          (∀ v < numValues, fitted[[v, j]]? = some (r v)) ∧ SharesOf elite n numValues j r) ∧
        ∀ {elite' : Tensor Nat}, elite.Reordered elite' → fit elite' numValues = .ok fitted) := by
  refine ⟨exists_unknown_iff layout, fun e => fit_eq_error_iff_first layout, fun known => ?_⟩
  obtain ⟨fitted, fits, shape, shares⟩ := exists_shares layout known
  refine ⟨fitted, fits, shape, fun j hj => ?_, fun {elite'} order => ?_⟩
  · exact ⟨_, fun v hv => shares hv hj, sharesOf_occurrences layout known hj⟩
  · have same := fit_reordered (R := ℝ) order numValues
    rw [fits] at same
    generalize fit (R := ℝ) elite' numValues = result at same ⊢
    cases same with
    | ok answer => rw [answer]

def ballots : List (Tensor Nat) := [.vector [0, 1], .vector [2, 1], .vector [0, 0], .vector [2, 1]]

theorem shape_of_mem_ballots : ∀ r ∈ ballots, r.shape = [2] := by
  decide

def poll : Tensor Nat := .stack [2] ballots shape_of_mem_ballots

theorem lt_of_poll {x : Nat} (entry : poll[[k, j]]? = some x) : x < 3 :=
  Tensor.forall_entry (m := 4) (n := 2) (P := (· < 3)) rfl (by decide) entry

theorem firstUnknown_of_poll : FirstUnknown poll 2 1 0 2 where
  entry := by decide
  unknown := le_rfl
  before := by
    rintro l i y (above | ⟨-, left⟩) entry
    · obtain rfl := Nat.lt_one_iff.1 above
      have row : ∀ i < 2, ∀ y ∈ poll[[0, i]]?, y < 2 := by decide
      obtain ⟨⟨-, hi, -⟩, -⟩ := Tensor.getElem?_eq_some_iff.1 entry
      exact row i hi y entry
    · exact absurd left (Nat.not_lt_zero i)

theorem shares_of_poll :
    poll.shape = [4, 2] ∧ FirstUnknown poll 2 1 0 2 ∧ fit (R := ℝ) poll 2 = .error (.indexOutOfBounds 2 [2]) ∧
      (∀ {k j x : Nat}, poll[[k, j]]? = some x → x < 3) ∧
      ∃ (elite' : Tensor Nat) (fitted : Tensor ℝ) (r : Nat → ℝ), poll.Reordered elite' ∧ fit elite' 3 = .ok fitted ∧
        fitted[[2, 0]]? = some (r 2) ∧ 4 * r 2 = 2 ∧ r 0 + r 1 + r 2 = 1 := by
  have layout : poll.shape = [4, 2] := rfl
  have reversed := Tensor.reordered_stack (List.reverse_perm ballots).symm shape_of_mem_ballots fun r member =>
    shape_of_mem_ballots r (List.mem_reverse.1 member)
  obtain ⟨-, refused, -⟩ := shares_of_values layout 2
  obtain ⟨-, -, fits⟩ := shares_of_values layout 3
  obtain ⟨fitted, -, -, shares, unordered⟩ := fits lt_of_poll
  obtain ⟨r, entries, first⟩ := shares 0 (by decide)
  have twice := first.share 2 (by decide)
  have total := first.total (by decide)
  refine ⟨layout, firstUnknown_of_poll, (refused _).2 ⟨1, 0, 2, firstUnknown_of_poll, rfl⟩, lt_of_poll, _, fitted, r,
    reversed, unordered reversed, entries 2 (by decide), ?_, ?_⟩
  · have count : occurrences poll 0 2 = 2 := by decide
    rw [count] at twice
    exact_mod_cast twice
  · simpa [sum_range_succ] using total

end Categorical
end CrossEntropy
