import CrossEntropy.Proofs.Stochastic
import CrossEntropy.Proofs.AxisPicks

/-!
Which draws pick which index, in exact arithmetic. An index is picked by the draws from the mass before it up to, but
not including, the mass through it, and the last one also by greater draws. So a distribution gives each index an
interval of draws as long as its probability, and a greater draw never picks a smaller index (`inversion_law`).
-/

namespace CrossEntropy
open Finset

noncomputable def massBefore (p : Nat → ℝ) (k : Nat) : ℝ := ∑ c ∈ range k, p c

variable {p : Nat → ℝ} {n k l : Nat} {draw : ℝ}

theorem massBefore_zero (p : Nat → ℝ) : massBefore p 0 = 0 := sum_range_zero p

theorem massBefore_succ (p : Nat → ℝ) (k : Nat) : massBefore p (k + 1) = massBefore p k + p k := sum_range_succ p k

theorem runningSum_eq_massBefore (p : Nat → ℝ) (k : Nat) : runningSum p k = massBefore p (k + 1) := runningSum_eq p k

theorem massBefore_mono (nonneg : ∀ c < n, 0 ≤ p c) (hl : l ≤ n) (le : k ≤ l) : massBefore p k ≤ massBefore p l :=
  sum_le_sum_of_subset_of_nonneg (range_subset_range.2 le) fun c hc _ =>
    nonneg c ((mem_range.1 hc).trans_le hl)

namespace IsPick

theorem massBefore_le (pick : IsPick n (runningSum p) draw k) (nonneg : 0 ≤ draw) : massBefore p k ≤ draw := by
  cases k with
  | zero => exact massBefore_zero p ▸ nonneg
  | succ k =>
      have passed := pick.not_before (Nat.lt_succ_self k)
      rwa [runningSum_eq_massBefore, not_lt] at passed

theorem lt_massBefore (pick : IsPick n (runningSum p) draw k) (below : draw < massBefore p n) :
    draw < massBefore p (k + 1) := by
  cases pick with
  | first _ exceeds => exact runningSum_eq_massBefore p k ▸ exceeds
  | last inside => exact inside ▸ below

theorem of_between (nonneg : ∀ c < n, 0 ≤ p c) (hk : k < n) (reached : massBefore p k ≤ draw)
    (below : draw < massBefore p (k + 1)) : IsPick n (runningSum p) draw k := by
  refine .first hk ((runningSum_eq_massBefore p k).symm ▸ below) fun l hl => ?_
  rw [runningSum_eq_massBefore, not_lt]
  exact ((massBefore_mono nonneg hk.le hl).trans reached)

theorem of_passed (passed : ∀ k < n, massBefore p (k + 1) ≤ draw) : IsPick (n + 1) (runningSum p) draw n := by
  have none : ∀ l < n, ¬draw < runningSum p l := fun l hl => by
    rw [runningSum_eq_massBefore, not_lt]
    exact passed l hl
  by_cases exceeds : draw < runningSum p n
  · exact .first (Nat.lt_succ_self n) exceeds none
  · refine .last rfl fun l hl => ?_
    rcases Nat.lt_succ_iff_lt_or_eq.1 hl with before | rfl
    · exact none l before
    · exact exceeds

theorem eq_inner_iff (pick : IsPick (n + 1) (runningSum p) draw k) (nonneg : ∀ c < n + 1, 0 ≤ p c)
    (unsigned : 0 ≤ draw) (inner : l < n) : k = l ↔ massBefore p l ≤ draw ∧ draw < massBefore p (l + 1) := by
  constructor
  · rintro rfl
    refine ⟨pick.massBefore_le unsigned, ?_⟩
    cases pick with
    | first _ exceeds => exact runningSum_eq_massBefore p k ▸ exceeds
    | last inside => omega
  · rintro ⟨reached, below⟩
    exact pick.unique (of_between nonneg (Nat.lt_succ_of_lt inner) reached below)

theorem eq_last_iff (pick : IsPick (n + 1) (runningSum p) draw k) :
    k = n ↔ ∀ l < n, massBefore p (l + 1) ≤ draw := by
  constructor
  · rintro rfl l hl
    have passed := pick.not_before hl
    rwa [runningSum_eq_massBefore, not_lt] at passed
  · exact fun passed => pick.unique (of_passed passed)

theorem eq_iff_of_below (pick : IsPick n (runningSum p) draw k) (nonneg : ∀ c < n, 0 ≤ p c) (unsigned : 0 ≤ draw)
    (below : draw < massBefore p n) (hl : l < n) : k = l ↔ massBefore p l ≤ draw ∧ draw < massBefore p (l + 1) := by
  constructor
  · rintro rfl
    exact ⟨pick.massBefore_le unsigned, pick.lt_massBefore below⟩
  · rintro ⟨reached, exceeds⟩
    exact pick.unique (of_between nonneg hl reached exceeds)

end IsPick

/-- What some way of sampling picks for the lane at a subscript, as a function of the draw for this lane alone. -/
def PicksBy (sample : Tensor ℝ → Except PickError (Tensor Nat)) (lanes : Shape) (i : List Nat)
    (pick : ℝ → Nat) : Prop :=
  ∀ (draws : Tensor ℝ) (draw : ℝ), draws.shape = lanes → draws[i]? = some draw →
    ∃ picked, sample draws = .ok picked ∧ picked[i]? = some (pick draw)

theorem picksBy_of_lane {cdf : Tensor ℝ} {axis : Nat} {i : List Nat} {cumulative : Nat → ℝ}
    (extent : cdf.shape[axis]? = some (n + 1)) (lane : cdf.lane axis i = (List.range (n + 1)).map cumulative) :
    ∃ pick, PicksBy (cdf.pickCdfWith axis) (cdf.shape.eraseIdx axis) i pick ∧
      ∀ draw, IsPick (n + 1) cumulative draw (pick draw) := by
  refine ⟨firstExceeding (cdf.lane axis i), fun draws draw fits drawn => ?_, fun draw => ?_⟩
  · obtain ⟨picked, sampled, -, picks⟩ := Tensor.exists_picked extent fits
    exact ⟨picked, sampled, picks drawn⟩
  · rw [lane]
    exact isPick_firstExceeding n.succ_pos cumulative draw

theorem monotone_of_picks {cumulative : Nat → ℝ} {pick : ℝ → Nat}
    (picks : ∀ draw, IsPick n cumulative draw (pick draw)) : Monotone pick := fun draw draw' le =>
  (picks draw).le_of_exceeds (picks draw') fun _ exceeds => lt_of_le_of_lt le exceeds

theorem setOf_pick_eq {pick : ℝ → Nat} (picks : ∀ draw, IsPick n (runningSum p) draw (pick draw))
    (nonneg : ∀ c < n, 0 ≤ p c) (whole : massBefore p n = 1) (hk : k < n) :
    {draw | 0 ≤ draw ∧ draw < 1 ∧ pick draw = k} = Set.Ico (massBefore p k) (massBefore p (k + 1)) := by
  have law (draw : ℝ) (unsigned : 0 ≤ draw) (unit : draw < 1) :=
    (picks draw).eq_iff_of_below nonneg unsigned (whole.symm ▸ unit) hk
  ext draw
  constructor
  · rintro ⟨unsigned, unit, picked⟩
    exact (law draw unsigned unit).1 picked
  · rintro ⟨reached, below⟩
    have unsigned : 0 ≤ draw := (massBefore_zero p ▸ massBefore_mono nonneg hk.le k.zero_le).trans reached
    have unit : draw < 1 := below.trans_le (whole ▸ massBefore_mono nonneg le_rfl hk)
    exact ⟨unsigned, unit, (law draw unsigned unit).2 ⟨reached, below⟩⟩

theorem inversion_law {a : Tensor ℝ} {axis n : Nat} {i : List Nat} {p : Nat → ℝ}
    (extent : a.shape[axis]? = some (n + 1)) (lane : a.HasLane axis (n + 1) i p) :
    (∃ pick, PicksBy (a.pickPmfWith axis) (a.shape.eraseIdx axis) i pick ∧ Monotone pick ∧
      ((∀ k < n + 1, 0 ≤ p k) →
        (∀ draw, 0 ≤ draw →
          (∀ k < n, pick draw = k ↔ massBefore p k ≤ draw ∧ draw < massBefore p (k + 1)) ∧
          (pick draw = n ↔ ∀ k < n, massBefore p (k + 1) ≤ draw)) ∧
        (massBefore p (n + 1) = 1 → ∀ k < n + 1,
          {draw | 0 ≤ draw ∧ draw < 1 ∧ pick draw = k} = Set.Ico (massBefore p k) (massBefore p (k + 1)) ∧
          massBefore p (k + 1) - massBefore p k = p k ∧
          (p k = 0 → ∀ draw, 0 ≤ draw → draw < 1 → pick draw ≠ k)))) ∧
    ∃ pick, PicksBy (a.pickCdfWith axis) (a.shape.eraseIdx axis) i pick ∧ Monotone pick := by
  constructor
  · have sums : (a.cumsum axis).lane axis i = (List.range (n + 1)).map (runningSum p) := by
      rw [Tensor.lane_cumsum a lane.inside, lane.lane_eq extent, runningSums_range]
    have summed : (a.cumsum axis).shape[axis]? = some (n + 1) := extent
    obtain ⟨pick, sampled, picks⟩ := picksBy_of_lane summed sums
    refine ⟨pick, sampled, monotone_of_picks picks, fun nonneg => ⟨fun draw unsigned => ?_, fun whole k hk => ?_⟩⟩
    · exact ⟨fun k inner => (picks draw).eq_inner_iff nonneg unsigned inner, (picks draw).eq_last_iff⟩
    · have interval := setOf_pick_eq picks nonneg whole hk
      refine ⟨interval, by rw [massBefore_succ, add_sub_cancel_left], fun none draw unsigned unit picked => ?_⟩
      have inside : draw ∈ Set.Ico (massBefore p k) (massBefore p (k + 1)) := interval ▸ ⟨unsigned, unit, picked⟩
      rw [massBefore_succ, none, add_zero, Set.Ico_self] at inside
      exact inside
  · obtain ⟨pick, sampled, picks⟩ := picksBy_of_lane extent (lane.lane_eq extent)
    exact ⟨pick, sampled, monotone_of_picks picks⟩

theorem inversion_of_coins :
    Categorical.coins.shape[0]? = some 2 ∧ Categorical.coins.HasLane 0 2 [1] (fun _ => 1 / 2) ∧
      ∃ pick, PicksBy (Categorical.coins.pickPmfWith 0) [2] [1] pick ∧
        {draw | 0 ≤ draw ∧ draw < 1 ∧ pick draw = 1} = Set.Ico (1 / 2) 1 := by
  have extent : Categorical.coins.shape[0]? = some 2 := rfl
  have lane : Categorical.coins.HasLane 0 2 [1] (fun _ => 1 / 2) := by
    refine ⟨by decide, fun c hc => ?_⟩
    match c, hc with
    | 0, _ => rfl
    | 1, _ => rfl
  obtain ⟨pick, sampled, -, law⟩ := (inversion_law extent lane).1
  have before : massBefore (fun _ => 1 / 2) 1 = 1 / 2 := by simp [massBefore]
  have whole : massBefore (fun _ => 1 / 2) 2 = 1 := by simp [massBefore]
  obtain ⟨interval, -⟩ := (law fun _ _ => one_half_pos.le).2 whole 1 Nat.one_lt_two
  rw [before, whole] at interval
  exact ⟨extent, lane, pick, sampled, interval⟩

end CrossEntropy
