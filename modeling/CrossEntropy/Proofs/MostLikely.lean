import CrossEntropy.Proofs.FloatOrder
import CrossEntropy.Proofs.ValueShares

namespace CrossEntropy
namespace Categorical
open Finset
variable {R K : Type} [Scalar R] [LinearOrder K]

structure LowestPeak (f : Nat → K) (n m : Nat) : Prop where
  lt : m < n
  le : ∀ v < n, f v ≤ f m
  first : ∀ v < m, f v < f m

namespace LowestPeak
variable {f : Nat → K} {n m : Nat}

theorem zero (f : Nat → K) : LowestPeak f 1 0 where
  lt := Nat.zero_lt_one
  le _ hv := (congrArg f (Nat.lt_one_iff.1 hv)).le
  first v hv := absurd hv (Nat.not_lt_zero v)

theorem keep (peak : LowestPeak f n m) (le : f n ≤ f m) : LowestPeak f (n + 1) m where
  lt := Nat.lt_succ_of_lt peak.lt
  le v hv := by
    rcases Nat.lt_succ_iff_lt_or_eq.1 hv with earlier | rfl
    · exact peak.le v earlier
    · exact le
  first := peak.first

theorem replace (peak : LowestPeak f n m) (lt : f m < f n) : LowestPeak f (n + 1) n where
  lt := Nat.lt_succ_self n
  le v hv := by
    rcases Nat.lt_succ_iff_lt_or_eq.1 hv with earlier | rfl
    · exact (peak.le v earlier).trans lt.le
    · exact le_rfl
  first v hv := (peak.le v hv).trans_lt lt

theorem isLeast (peak : LowestPeak f n m) : IsLeast {v | v < n ∧ ∀ w < n, f w ≤ f v} m := by
  refine ⟨⟨peak.lt, peak.le⟩, fun v ⟨_, greatest⟩ => ?_⟩
  by_contra lower
  exact (peak.first v (Nat.lt_of_not_le lower)).not_ge (greatest m peak.lt)

end LowestPeak

theorem lowestPeak_greatestFrom {x : Nat → R} {f : Nat → K} {n k best : Nat}
    (compares : ∀ v < k + n, ∀ w < k + n, (x v < x w ↔ f v < f w)) (peak : LowestPeak f k best) :
    LowestPeak f (k + n) (greatestFrom best (x best) k ((List.range' k n).map x)) := by
  induction n generalizing k best with
  | zero => exact peak
  | succ n ih =>
      have here : k < k + (n + 1) := by omega
      have step := compares best (peak.lt.trans here) k here
      have length : k + (n + 1) = k + 1 + n := by omega
      rw [List.range'_succ, List.map_cons, greatestFrom]
      rw [length] at compares ⊢
      by_cases lt : x best < x k
      · rw [if_pos lt]
        exact ih compares (peak.replace (step.1 lt))
      · rw [if_neg lt]
        rw [step, not_lt] at lt
        exact ih compares (peak.keep lt)

theorem lowestPeak_greatest {x : Nat → R} {f : Nat → K} {n : Nat} (pos : 0 < n)
    (compares : ∀ v < n, ∀ w < n, (x v < x w ↔ f v < f w)) : LowestPeak f n (greatest ((List.range n).map x)) := by
  obtain ⟨n, rfl⟩ := Nat.exists_eq_succ_of_ne_zero pos.ne'
  rw [List.range_eq_range', List.range'_succ, List.map_cons, greatest]
  rw [Nat.succ_eq_add_one, Nat.add_comm] at compares ⊢
  exact lowestPeak_greatestFrom compares (.zero f)

/-- In each column the least row with an entry that is not below any other. -/
structure PicksLowest (p : Tensor R) (numValues columns : Nat) (picked : Tensor Nat) : Prop where
  shape : picked.shape = [columns]
  least : ∀ j < columns, ∃ (x : Nat → R) (m : Nat), (∀ v < numValues, p[[v, j]]? = some (x v)) ∧
    picked[[j]]? = some m ∧ IsLeast {v | v < numValues ∧ ∀ w < numValues, x w ≤ x v} m

variable {p : Tensor R} {numValues columns n j : Nat}

theorem shape_mostLikely (layout : p.shape = [numValues, columns]) : (mostLikely p).shape = [columns] := by
  rw [mostLikely, Tensor.reduce, Tensor.shape_ofFn, layout]
  rfl

theorem exists_column (layout : p.shape = [numValues, columns]) (pos : 0 < numValues) (hj : j < columns) :
    ∃ x : Nat → R, (∀ v < numValues, p[[v, j]]? = some (x v)) ∧
      (mostLikely p)[[j]]? = some (greatest ((List.range numValues).map x)) := by
  obtain ⟨x, column, lane⟩ := Tensor.exists_lane_of_cons (i := [j]) layout pos ⟨hj, trivial⟩
  refine ⟨x, column.entry, ?_⟩
  rw [mostLikely, Tensor.reduce, Tensor.getElem?_ofFn column.inside, lane]

theorem picksLowest_of_places (number : R → Prop) (place : R → K) (layout : p.shape = [numValues, columns])
    (pos : 0 < numValues) (numbers : ∀ {v j : Nat} {x : R}, p[[v, j]]? = some x → number x)
    (lt : ∀ {x y : R}, number x → number y → (x < y ↔ place x < place y))
    (le : ∀ {x y : R}, number x → number y → (x ≤ y ↔ place x ≤ place y)) :
    PicksLowest p numValues columns (mostLikely p) := by
  refine ⟨shape_mostLikely layout, fun j hj => ?_⟩
  obtain ⟨x, entries, picked⟩ := exists_column layout pos hj
  have number {v : Nat} (hv : v < numValues) : number (x v) := numbers (entries v hv)
  have peak := lowestPeak_greatest pos (f := fun v => place (x v)) fun v hv w hw => lt (number hv) (number hw)
  have same : {v | v < numValues ∧ ∀ w < numValues, x w ≤ x v} =
      {v | v < numValues ∧ ∀ w < numValues, place (x w) ≤ place (x v)} := by
    ext v
    exact and_congr_right fun hv => forall₂_congr fun w hw => le (number hw) (number hv)
  exact ⟨x, _, entries, picked, same ▸ peak.isLeast⟩

variable {elite : Tensor Nat}

theorem occurrences_of_le {v : Nat} (known : ∀ {k j x : Nat}, elite[[k, j]]? = some x → x < numValues)
    (unknown : numValues ≤ v) : occurrences elite j v = 0 := by
  apply card_eq_zero.2
  apply filter_eq_empty_iff.2
  intro k _ entry
  exact absurd (known entry) (Nat.not_lt.2 unknown)

theorem isLeast_mode {m : Nat} (known : ∀ {k j x : Nat}, elite[[k, j]]? = some x → x < numValues)
    (peak : LowestPeak (occurrences elite j) numValues m) :
    IsLeast {v | ∀ w, occurrences elite j w ≤ occurrences elite j v} m := by
  refine ⟨fun w => ?_, fun v greatest => ?_⟩
  · rcases Nat.lt_or_ge w numValues with hw | hw
    · exact peak.le w hw
    · rw [occurrences_of_le known hw]
      exact Nat.zero_le _
  · by_contra lower
    exact (peak.first v (Nat.lt_of_not_le lower)).not_ge (greatest m)

theorem exists_mode (layout : elite.shape = [n, columns]) (filled : 0 < n)
    (known : ∀ {k j x : Nat}, elite[[k, j]]? = some x → x < numValues) :
    ∃ fitted : Tensor ℝ, fit elite numValues = .ok fitted ∧ (mostLikely fitted).shape = [columns] ∧
      ∀ j < columns, ∃ m, (mostLikely fitted)[[j]]? = some m ∧
        IsLeast {v | ∀ w, occurrences elite j w ≤ occurrences elite j v} m := by
  obtain ⟨fitted, fits, shape, shares⟩ := exists_shares layout known
  refine ⟨fitted, fits, shape_mostLikely shape, fun j hj => ?_⟩
  have pos : 0 < numValues := by
    have inside : elite.shape.InBounds [0, j] := layout ▸ ⟨filled, hj, trivial⟩
    exact Nat.zero_lt_of_lt (known (Tensor.getElem?_eq_some_iff.2 ⟨inside, rfl⟩))
  obtain ⟨x, entries, picked⟩ := exists_column shape pos hj
  have share {v : Nat} (hv : v < numValues) : x v = occurrences elite j v / n :=
    Option.some.inj ((entries v hv).symm.trans (shares hv hj))
  have count : (0 : ℝ) < n := Nat.cast_pos.2 filled
  refine ⟨_, picked, isLeast_mode known (lowestPeak_greatest pos fun v hv w hw => ?_)⟩
  rw [share hv, share hw, div_lt_div_iff_of_pos_right count, Nat.cast_lt]

theorem most_likely_is_lowest_mode :
    (∀ {p : Tensor Float} {numValues columns : Nat}, p.shape = [numValues, columns] → 0 < numValues →
      (∀ {v j : Nat} {x : Float}, p[[v, j]]? = some x → x.isNaN = false) →
      PicksLowest p numValues columns (mostLikely p)) ∧
    (∀ {p : Tensor ℝ} {numValues columns : Nat}, p.shape = [numValues, columns] → 0 < numValues →
      PicksLowest p numValues columns (mostLikely p)) ∧
    ∀ {elite : Tensor Nat} {n columns numValues : Nat}, elite.shape = [n, columns] → 0 < n →
      (∀ {k j x : Nat}, elite[[k, j]]? = some x → x < numValues) →
      ∃ fitted : Tensor ℝ, fit elite numValues = .ok fitted ∧ (mostLikely fitted).shape = [columns] ∧
        ∀ j < columns, ∃ m, (mostLikely fitted)[[j]]? = some m ∧
          IsLeast {v | ∀ w, occurrences elite j w ≤ occurrences elite j v} m := by
  refine ⟨fun layout pos numbers => ?_, fun layout pos => ?_, exists_mode⟩
  · exact picksLowest_of_places (·.isNaN = false) floatPlace layout pos numbers lt_iff_place le_iff_place
  · exact picksLowest_of_places (fun _ => True) id layout pos (fun _ => trivial) (fun _ _ => Iff.rfl)
      (fun _ _ => Iff.rfl)

/-- The zeros have different signs and are equal. -/
def ties : Tensor Float := ⟨[3, 2], #[-0.0, 0.25, 0.0, 0.75, -0.0, 0.75], rfl⟩

theorem number_of_ties {v j : Nat} {x : Float} (entry : ties[[v, j]]? = some x) : x.isNaN = false :=
  Tensor.forall_entry (m := 3) (n := 2) (P := (·.isNaN = false)) rfl (by decide +kernel) entry

theorem lowest_of_ties :
    ties.shape = [3, 2] ∧ 0 < 3 ∧ (∀ {v j : Nat} {x : Float}, ties[[v, j]]? = some x → x.isNaN = false) ∧
      PicksLowest ties 3 2 (mostLikely ties) ∧
      poll.shape = [4, 2] ∧ 0 < 4 ∧ (∀ {k j x : Nat}, poll[[k, j]]? = some x → x < 3) ∧
      ∃ fitted : Tensor ℝ, fit poll 3 = .ok fitted ∧ (mostLikely fitted)[[0]]? = some 0 ∧
        (mostLikely fitted)[[1]]? = some 1 := by
  obtain ⟨floats, -, modes⟩ := most_likely_is_lowest_mode
  have lowest := floats (p := ties) rfl (by decide) number_of_ties
  have layout : poll.shape = [4, 2] := rfl
  obtain ⟨fitted, fits, -, picks⟩ := modes layout (by decide) lt_of_poll
  refine ⟨rfl, by decide, number_of_ties, lowest, layout, by decide, lt_of_poll, fitted, fits, ?_, ?_⟩
  · obtain ⟨m, picked, least⟩ := picks 0 (by decide)
    have mode := isLeast_mode (j := 0) (m := 0) lt_of_poll ⟨by decide, by decide, by decide⟩
    rw [picked, least.unique mode]
  · obtain ⟨m, picked, least⟩ := picks 1 (by decide)
    have mode := isLeast_mode (j := 1) (m := 1) lt_of_poll ⟨by decide, by decide, by decide⟩
    rw [picked, least.unique mode]

end Categorical
end CrossEntropy
