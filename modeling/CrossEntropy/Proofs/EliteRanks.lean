import CrossEntropy.Proofs.SortedScores

/-!
The law of elite selection (`elite_by_ranks`). Scores get their ranks in the total order of doubles, in which the
negative zero comes before the positive one, and are admitted as they compare with the bound, for which both zeros
are one. The bound is among the scores of the ranks up to its own, so none of those is left out.
-/

namespace CrossEntropy

/-- The total order of doubles that are numbers: as they compare, and of the two zeros the negative one first. -/
def TotalLe (x y : Float) : Prop := x < y ∨ x = y ∨ (x = -0.0 ∧ y = 0.0)

instance (x y : Float) : Decidable (TotalLe x y) := inferInstanceAs (Decidable (_ ∨ _))

theorem float_eq_of_toBits {x y : Float} (same : x.toBits = y.toBits) : x = y := by
  obtain ⟨⟨bits, valid⟩⟩ := x
  obtain ⟨⟨bits', valid'⟩⟩ := y
  obtain rfl : bits = bits' := same
  rfl

theorem floatRank_inj {x y : Float} (same : floatRank x = floatRank y) : x = y := by
  have signBit : (0x8000000000000000 : UInt64).toNat = 0x8000000000000000 := rfl
  apply float_eq_of_toBits
  apply UInt64.toNat_inj.1
  unfold floatRank at same
  by_cases px : x.toBits < 0x8000000000000000 <;> by_cases py : y.toBits < 0x8000000000000000
  · rw [if_pos px, if_pos py] at same
    exact Int.ofNat.inj same
  · rw [if_pos px, if_neg py] at same
    cases same
  · rw [if_neg px, if_pos py] at same
    cases same
  · rw [if_neg px, if_neg py, Int.negSucc.injEq, UInt64.toNat_sub_of_le _ _ (UInt64.not_lt.1 px),
      UInt64.toNat_sub_of_le _ _ (UInt64.not_lt.1 py), signBit] at same
    rw [UInt64.lt_iff_toNat_lt, signBit] at px py
    omega

theorem sortLe_iff_totalLe {x y : Float} (hx : x.isNaN = false) (hy : y.isNaN = false) :
    Score.sortLe x y = true ↔ TotalLe x y := by
  have lower := floatRank_eq x
  have upper := floatRank_eq y
  constructor
  · intro le
    have place := floatPlace_le_of_sortLe le
    have rank : floatRank x ≤ floatRank y := of_decide_eq_true le
    by_cases lt : floatPlace x < floatPlace y
    · exact .inl ((lt_iff_place hx hy).2 lt)
    · by_cases same : floatRank x = floatRank y
      · exact .inr (.inl (floatRank_inj same))
      · -- Doubles of one place and of two ranks are the zeros.
        have negative : floatRank (-0.0) = -1 := by decide +kernel
        have positive : floatRank 0.0 = 0 := by decide +kernel
        refine .inr (.inr ⟨floatRank_inj ?_, floatRank_inj ?_⟩) <;> omega
  · rintro (lt | rfl | ⟨rfl, rfl⟩)
    · have place := (lt_iff_place hx hy).1 lt
      exact decide_eq_true (by omega)
    · exact decide_eq_true (Int.le_refl _)
    · decide +kernel

namespace Elite

/-- The score is the one of this rank, counted from one for the lowest: fewer scores come before it, and so many
are before it or the same. -/
def HasRank (scores : List Float) (k : Nat) (score : Float) : Prop :=
  score ∈ scores ∧ (scores.countP fun other => ¬TotalLe score other) < k ∧
    k ≤ scores.countP fun other => TotalLe other score

variable {scores : List Float} {k numElite : Nat} {score other : Float} {elite : Elite Float}

theorem HasRank.le (number : ∀ score ∈ scores, score.isNaN = false) (h : HasRank scores k score)
    (h' : HasRank scores k other) : TotalLe score other := by
  obtain ⟨member, before, -⟩ := h
  obtain ⟨member', -, upTo⟩ := h'
  by_contra later
  have fewer : (scores.countP fun x => TotalLe x other) ≤ scores.countP fun x => ¬TotalLe score x := by
    refine List.countP_mono_left fun x hx below => decide_eq_true fun above => later ?_
    have below : TotalLe x other := of_decide_eq_true below
    rw [← sortLe_iff_totalLe (number x hx) (number other member')] at below
    rw [← sortLe_iff_totalLe (number score member) (number x hx)] at above
    exact (sortLe_iff_totalLe (number score member) (number other member')).1 (Score.Sortable.trans _ _ _ above below)
  omega

theorem HasRank.unique (number : ∀ score ∈ scores, score.isNaN = false) (h : HasRank scores k score)
    (h' : HasRank scores k other) : score = other := by
  have below := h.le number h'
  have above := h'.le number h
  rw [← sortLe_iff_totalLe (number score h.1) (number other h'.1)] at below
  rw [← sortLe_iff_totalLe (number other h'.1) (number score h.1)] at above
  exact floatRank_inj (Int.le_antisymm (of_decide_eq_true below) (of_decide_eq_true above))

theorem hasRank_of_ofRank? (number : ∀ score ∈ scores, score.isNaN = false) (ranked : ofRank? scores k = some score) :
    HasRank scores k score := by
  have member := mem_of_ofRank? ranked
  cases k with
  | zero => cases ranked
  | succ k =>
      have total {x y : Float} (hx : x ∈ sorted scores) (hy : y ∈ sorted scores) :
          Score.sortLe x y = true → TotalLe x y :=
        (sortLe_iff_totalLe (number x (List.mem_mergeSort.1 hx)) (number y (List.mem_mergeSort.1 hy))).1
      have self : score ∈ sorted scores := List.mem_mergeSort.2 member
      refine ⟨member, ?_, ?_⟩
      · have none : ((sorted scores).drop k).countP (fun other => ¬TotalLe score other) = 0 :=
          List.countP_eq_zero.2 fun x hx later => of_decide_eq_true later
            (total self (List.mem_of_mem_drop hx) (sortLe_of_mem_drop ranked x hx))
        calc
          (scores.countP fun other => ¬TotalLe score other)
            = (sorted scores).countP fun other => ¬TotalLe score other :=
              ((List.mergeSort_perm scores _).countP_eq _).symm
          _ = ((sorted scores).take k).countP fun other => ¬TotalLe score other := by
            rw [← List.take_append_drop k (sorted scores), List.countP_append, none, List.take_append_drop,
              Nat.add_zero]
          _ ≤ k := Nat.le_trans List.countP_le_length (List.length_take_le _ _)
          _ < k + 1 := k.lt_succ_self
      · obtain ⟨inside, -⟩ := List.getElem?_eq_some_iff.1 (show (sorted scores)[k]? = _ from ranked)
        calc
          k + 1 = ((sorted scores).take (k + 1)).length := by rw [List.length_take]; omega
          _ = ((sorted scores).take (k + 1)).countP fun other => TotalLe other score :=
            (List.countP_eq_length.2 fun x hx => decide_eq_true
              (total (List.mem_of_mem_take hx) self (sortLe_of_mem_take ranked x hx))).symm
          _ ≤ (sorted scores).countP fun other => TotalLe other score := (List.take_sublist _ _).countP_le
          _ = scores.countP fun other => TotalLe other score := (List.mergeSort_perm scores _).countP_eq _

theorem hasRank_iff (number : ∀ score ∈ scores, score.isNaN = false) (ranked : ofRank? scores k = some score) :
    HasRank scores k other ↔ other = score := by
  have rank := hasRank_of_ofRank? number ranked
  exact ⟨fun h => h.unique number rank, fun h => h ▸ rank⟩

theorem length_indices_eq_iff (number : ∀ score ∈ scores, score.isNaN = false)
    (selected : select? scores numElite = some elite) (le : numElite ≤ scores.length) :
    elite.indices.length = numElite ↔
      numElite = scores.length ∨ ∃ next, HasRank scores (numElite + 1) next ∧ elite.eliteScore < next := by
  have bound := number _ (mem_of_ofRank? (ranks_of_select? selected).2)
  rw [length_indices (agree_of_numbers number) selected, Nat.add_eq_left, List.countP_eq_zero]
  constructor
  · intro none
    rcases Nat.eq_or_lt_of_le le with all | fewer
    · exact .inl all
    · have inside : numElite < (sorted scores).length := by rwa [length_sorted]
      have ranked : ofRank? scores (numElite + 1) = some (sorted scores)[numElite] := List.getElem?_eq_getElem inside
      have behind : (sorted scores)[numElite] ∈ (sorted scores).drop numElite := by
        rw [List.drop_eq_getElem_cons inside]
        exact .head _
      refine .inr ⟨_, hasRank_of_ofRank? number ranked, ?_⟩
      by_contra above
      exact none _ behind (decide_eq_true (float_le_of_not_lt (number _ (mem_of_ofRank? ranked)) bound above))
  · rintro (all | ⟨next, rank, above⟩) score member admits
    · rw [all, ← length_sorted, List.drop_length] at member
      cases member
    · have admits : score ≤ elite.eliteScore := of_decide_eq_true admits
      obtain ⟨i, inside, -⟩ := List.getElem_of_mem member
      rw [List.length_drop] at inside
      have ranked : ofRank? scores (numElite + 1) = some (sorted scores)[numElite] :=
        List.getElem?_eq_getElem (by omega)
      obtain rfl := (hasRank_iff number ranked).1 rank
      have worse := float_le_of_sortLe (number _ rank.1)
        (number _ (List.mem_mergeSort.1 (List.mem_of_mem_drop member))) (sortLe_of_mem_drop ranked score member)
      have lt := (lt_iff_place bound (number _ rank.1)).1 above
      have le := (le_iff_place (number _ rank.1) bound).1 (float_le_trans worse admits)
      omega

end Elite

theorem elite_by_ranks {scores : List Float} {numElite : Nat} (number : ∀ score ∈ scores, score.isNaN = false)
    (pos : 1 ≤ numElite) (le : numElite ≤ scores.length) :
    ∃ elite, Elite.select? scores numElite = some elite ∧
      (∀ score, Elite.HasRank scores 1 score ↔ score = elite.minScore) ∧
      (∀ score, Elite.HasRank scores numElite score ↔ score = elite.eliteScore) ∧
      (∀ score ∈ scores, elite.minScore ≤ score) ∧
      elite.indices.Pairwise (· < ·) ∧
      (∀ i, i ∈ elite.indices ↔ ∃ score, scores[i]? = some score ∧ score ≤ elite.eliteScore) ∧
      numElite ≤ elite.indices.length ∧
      (elite.indices.length = numElite ↔
        numElite = scores.length ∨ ∃ next, Elite.HasRank scores (numElite + 1) next ∧ elite.eliteScore < next) := by
  have agree := agree_of_numbers number
  obtain ⟨elite, selected⟩ := Elite.exists_select? pos le
  obtain ⟨lowest, bound⟩ := Elite.ranks_of_select? selected
  have indices := Elite.indices_of_select? selected
  refine ⟨elite, selected, fun _ => Elite.hasRank_iff number lowest, fun _ => Elite.hasRank_iff number bound,
    Elite.minScore_le_of_select? agree selected, ?_, fun i => ?_, (Elite.bounds_of_select? agree selected).2,
    Elite.length_indices_eq_iff number selected le⟩
  · rw [indices]
    exact Elite.pairwise_admitted scores elite.eliteScore
  · rw [indices]
    exact Elite.mem_admitted_iff

theorem ranks_of_zero_scores :
    let scores : List Float := [1.5, 0.0, 1.0 / 0.0, -0.0, -1.0 / 0.0]
    (∀ score ∈ scores, score.isNaN = false) ∧ 1 ≤ 2 ∧ 2 ≤ scores.length ∧
      ∃ elite, Elite.select? scores 2 = some elite ∧ elite.minScore = -1.0 / 0.0 ∧ elite.eliteScore = -0.0 ∧
        elite.indices.Pairwise (· < ·) ∧ (∀ i, i ∈ elite.indices ↔ i = 1 ∨ i = 3 ∨ i = 4) ∧
          2 < elite.indices.length := by
  intro scores
  have number : ∀ score ∈ scores, score.isNaN = false := by decide +kernel
  obtain ⟨elite, selected, lowest, bound, -, ascending, members, least, exactly⟩ :=
    elite_by_ranks number (by decide : 1 ≤ 2) (by decide : 2 ≤ scores.length)
  have first : Elite.HasRank scores 1 (-1.0 / 0.0) := ⟨by simp [scores], by decide +kernel, by decide +kernel⟩
  have second : Elite.HasRank scores 2 (-0.0) := ⟨by simp [scores], by decide +kernel, by decide +kernel⟩
  have third : Elite.HasRank scores 3 0.0 := ⟨by simp [scores], by decide +kernel, by decide +kernel⟩
  have bound : elite.eliteScore = -0.0 := ((bound _).1 second).symm
  rw [bound] at members exactly
  refine ⟨number, by decide, by decide, elite, selected, ((lowest _).1 first).symm, bound, ascending, fun i => ?_, ?_⟩
  · have admits : ¬(1.5 : Float) ≤ -0.0 ∧ (0.0 : Float) ≤ -0.0 ∧ ¬(1.0 / 0.0 : Float) ≤ -0.0 ∧ (-0.0 : Float) ≤ -0.0 ∧
        (-1.0 / 0.0 : Float) ≤ -0.0 := by decide +kernel
    rw [members]
    match i with
    | 0 | 1 | 2 | 3 | 4 => simp [scores, admits]
    | i + 5 => simp [scores]
  · refine Nat.lt_of_le_of_ne least fun two => ?_
    rcases exactly.1 two.symm with all | ⟨next, rank, above⟩
    · cases all
    · rw [rank.unique number third] at above
      exact absurd above (by decide +kernel)

end CrossEntropy
