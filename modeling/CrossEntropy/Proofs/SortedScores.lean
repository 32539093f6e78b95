import Mathlib.Data.Int.Order.Basic
import Mathlib.Data.List.Forall2
import CrossEntropy.Proofs.Elite
import CrossEntropy.Proofs.FloatOrder

namespace CrossEntropy
variable {S T : Type} [Score S]

/-- Scores whose sorting order is an order of all scores, perhaps with ties. -/
class Score.Sortable (S : Type) [Score S] : Prop where
  trans : ∀ x y z : S, Score.sortLe x y → Score.sortLe y z → Score.sortLe x z
  total : ∀ x y : S, Score.sortLe x y || Score.sortLe y x

instance : Score.Sortable Float where
  trans x y z xy yz := by
    simp only [Score.sortLe, decide_eq_true_eq] at xy yz ⊢
    exact Int.le_trans xy yz
  total x y := by
    simp only [Score.sortLe, Bool.or_eq_true, decide_eq_true_eq]
    exact Int.le_total _ _

theorem floatRank_eq (x : Float) :
    0 ≤ floatPlace x ∧ floatRank x = floatPlace x ∨ floatPlace x ≤ 0 ∧ floatRank x = floatPlace x - 1 := by
  have signBit : (0x8000000000000000 : UInt64).toNat = 0x8000000000000000 := rfl
  unfold floatRank floatPlace
  by_cases positive : x.toBits < 0x8000000000000000
  · have below := positive
    rw [UInt64.lt_iff_toNat_lt, signBit] at below
    rw [if_pos positive, if_pos below]
    exact .inl ⟨Int.natCast_nonneg _, rfl⟩
  · have above := positive
    rw [UInt64.lt_iff_toNat_lt, signBit] at above
    rw [if_neg positive, if_neg above, UInt64.toNat_sub_of_le _ _ (UInt64.not_lt.1 positive), signBit]
    omega

theorem floatPlace_le_of_sortLe {x y : Float} (le : Score.sortLe x y = true) : floatPlace x ≤ floatPlace y := by
  have le : floatRank x ≤ floatRank y := of_decide_eq_true le
  rcases floatRank_eq x with x | x <;> rcases floatRank_eq y with y | y <;> omega

theorem float_le_of_sortLe {x y : Float} (hx : x.isNaN = false) (hy : y.isNaN = false)
    (le : Score.sortLe x y = true) : x ≤ y :=
  (le_iff_place hx hy).2 (floatPlace_le_of_sortLe le)

theorem agree_of_numbers {scores : List Float} (number : ∀ score ∈ scores, score.isNaN = false) :
    ∀ x ∈ scores, ∀ y ∈ scores, Score.sortLe x y = true → x ≤ y :=
  fun x hx y hy => float_le_of_sortLe (number x hx) (number y hy)

namespace Elite

theorem pairwise_sorted [Score.Sortable S] (scores : List S) :
    (sorted scores).Pairwise fun x y => Score.sortLe x y = true :=
  List.pairwise_mergeSort Score.Sortable.trans Score.Sortable.total scores

/-- Batches whose scores have the same values, in whatever order, have the same value at each rank, if values
grow in sorting order. -/
theorem map_sorted_eq [Score.Sortable S] [PartialOrder T] {xs ys : List S} {f h : S → T}
    (values : (xs.map f).Perm (ys.map h)) (grows : ∀ x ∈ xs, ∀ y ∈ xs, Score.sortLe x y = true → f x ≤ f y)
    (grows' : ∀ x ∈ ys, ∀ y ∈ ys, Score.sortLe x y = true → h x ≤ h y) :
    (sorted xs).map f = (sorted ys).map h := by
  -- Both are in order, and there is only one order of the same values.
  have first : ((sorted xs).map f).Pairwise (· ≤ ·) := by
    refine List.pairwise_map.2 ((pairwise_sorted xs).imp_of_mem fun hx hy le => ?_)
    exact grows _ (List.mem_mergeSort.1 hx) _ (List.mem_mergeSort.1 hy) le
  have second : ((sorted ys).map h).Pairwise (· ≤ ·) := by
    refine List.pairwise_map.2 ((pairwise_sorted ys).imp_of_mem fun hx hy le => ?_)
    exact grows' _ (List.mem_mergeSort.1 hx) _ (List.mem_mergeSort.1 hy) le
  have same : ((sorted xs).map f).Perm ((sorted ys).map h) :=
    ((List.mergeSort_perm xs _).map f).trans (values.trans ((List.mergeSort_perm ys _).map h).symm)
  exact same.eq_of_pairwise (fun _ _ _ _ => le_antisymm) first second

theorem mem_of_ofRank? {scores : List S} {k : Nat} {score : S} (ranked : ofRank? scores k = some score) :
    score ∈ scores := by
  cases k with
  | zero => cases ranked
  | succ k => exact List.mem_mergeSort.1 (List.mem_of_getElem? ranked)

theorem ofRank?_map_eq {xs ys : List S} {f h : S → T} (sorts : (sorted xs).map f = (sorted ys).map h) (k : Nat) :
    (ofRank? xs k).map f = (ofRank? ys k).map h := by
  cases k with
  | zero => rfl
  | succ k =>
      have entries := congrArg (·[k]?) sorts
      simp only [List.getElem?_map] at entries
      exact entries

theorem ranks_of_select? {scores : List S} {numElite : Nat} {elite : Elite S}
    (selected : select? scores numElite = some elite) :
    ofRank? scores 1 = some elite.minScore ∧ ofRank? scores numElite = some elite.eliteScore := by
  simp only [select?, Option.bind_eq_bind, Option.bind_eq_some_iff, Option.pure_def, Option.some.injEq] at selected
  obtain ⟨_, low, _, bound, rfl⟩ := selected
  exact ⟨low, bound⟩

theorem admitted_of_le {scores : List S} {bound : S} (all : ∀ score ∈ scores, score ≤ bound) :
    admitted scores bound = List.range scores.length := by
  have admits : ∀ pair ∈ scores.zipIdx, (if pair.1 ≤ bound then some pair.2 else none) = some pair.2 :=
    fun pair member => if_pos (all _ (List.fst_mem_of_mem_zipIdx member))
  rw [admitted, List.filterMap_congr admits, List.range_eq_range', ← List.zipIdx_map_snd]
  exact congrFun List.filterMap_eq_map _

theorem length_admitted (scores : List S) (bound : S) :
    (admitted scores bound).length = scores.countP fun score => decide (score ≤ bound) := by
  rw [admitted]
  generalize 0 = start
  induction scores generalizing start with
  | nil => rfl
  | cons score scores ih => by_cases admits : score ≤ bound <;> simp [List.zipIdx_cons, admits, ih]

theorem length_le_of_select? {scores : List S} {numElite : Nat} {elite : Elite S}
    (selected : select? scores numElite = some elite) : elite.indices.length ≤ scores.length := by
  rw [indices_of_select? selected, length_admitted]
  exact List.countP_le_length

theorem pairwise_admitted (scores : List S) (bound : S) : (admitted scores bound).Pairwise (· < ·) := by
  have counted : (scores.zipIdx.map Prod.snd).Pairwise (· < ·) := by
    rw [List.zipIdx_map_snd]
    exact List.pairwise_lt_range'
  refine (List.pairwise_map.1 counted).filterMap _ ?_
  intro pair pair' lt i admits j admits'
  obtain ⟨-, number⟩ := Option.ite_none_right_eq_some.1 admits
  obtain ⟨-, number'⟩ := Option.ite_none_right_eq_some.1 admits'
  exact Option.some.inj number ▸ Option.some.inj number' ▸ lt

theorem mem_admitted_iff {scores : List S} {bound : S} {i : Nat} :
    i ∈ admitted scores bound ↔ ∃ score, scores[i]? = some score ∧ score ≤ bound := by
  simp only [admitted, List.mem_filterMap, Prod.exists, List.mem_zipIdx_iff_getElem?, Option.ite_none_right_eq_some,
    Option.some.injEq]
  constructor
  · rintro ⟨score, j, entry, admits, rfl⟩
    exact ⟨score, entry, admits⟩
  · rintro ⟨score, entry, admits⟩
    exact ⟨score, i, entry, admits, rfl⟩

section Agreeing
variable [Score.Sortable S] {scores : List S} {k : Nat} {bound : S}

theorem sortLe_of_mem_take (ranked : ofRank? scores (k + 1) = some bound) :
    ∀ score ∈ (sorted scores).take (k + 1), Score.sortLe score bound = true := by
  have last : (sorted scores)[k]? = some bound := ranked
  have split : (sorted scores).take (k + 1) = (sorted scores).take k ++ [bound] := by
    rw [List.take_add_one, last]
    rfl
  have sorts := (pairwise_sorted scores).sublist (List.take_sublist (k + 1) _)
  rw [split, List.pairwise_append] at sorts
  have self : Score.sortLe bound bound = true := by simpa using Score.Sortable.total bound bound
  intro score member
  rw [split] at member
  rcases List.mem_append.1 member with lower | same
  · exact sorts.2.2 score lower bound (.head _)
  · exact List.mem_singleton.1 same ▸ self

theorem sortLe_of_mem_drop (ranked : ofRank? scores (k + 1) = some bound) :
    ∀ score ∈ (sorted scores).drop k, Score.sortLe bound score = true := by
  obtain ⟨inside, first⟩ := List.getElem?_eq_some_iff.1 (show (sorted scores)[k]? = some bound from ranked)
  have split : (sorted scores).drop k = bound :: (sorted scores).drop (k + 1) := by
    rw [List.drop_eq_getElem_cons inside, first]
  have sorts := (pairwise_sorted scores).sublist (List.drop_sublist k _)
  have self : Score.sortLe bound bound = true := by simpa using Score.Sortable.total bound bound
  rw [split] at sorts ⊢
  exact List.forall_mem_cons.2 ⟨self, (List.pairwise_cons.1 sorts).1⟩

variable {numElite : Nat} {elite : Elite S} (agree : ∀ x ∈ scores, ∀ y ∈ scores, Score.sortLe x y = true → x ≤ y)
include agree

theorem le_of_mem_take (ranked : ofRank? scores (k + 1) = some bound) :
    ∀ score ∈ (sorted scores).take (k + 1), score ≤ bound :=
  fun score member => agree score (List.mem_mergeSort.1 (List.mem_of_mem_take member)) bound (mem_of_ofRank? ranked)
    (sortLe_of_mem_take ranked score member)

theorem minScore_le_of_select? (selected : select? scores numElite = some elite) :
    ∀ score ∈ scores, elite.minScore ≤ score := by
  intro score member
  have first := (ranks_of_select? selected).1
  exact agree _ (mem_of_ofRank? first) score member (sortLe_of_mem_drop first score (List.mem_mergeSort.2 member))

theorem length_indices (selected : select? scores numElite = some elite) :
    elite.indices.length = numElite + ((sorted scores).drop numElite).countP fun score => score ≤ elite.eliteScore := by
  have bound := (ranks_of_select? selected).2
  cases numElite with
  | zero => cases bound
  | succ k =>
      obtain ⟨inside, -⟩ := List.getElem?_eq_some_iff.1 (show (sorted scores)[k]? = _ from bound)
      calc
        elite.indices.length = scores.countP fun score => score ≤ elite.eliteScore := by
          rw [indices_of_select? selected, length_admitted]
        _ = (sorted scores).countP fun score => score ≤ elite.eliteScore :=
          ((List.mergeSort_perm scores _).countP_eq _).symm
        _ = ((sorted scores).take (k + 1)).countP (fun score => score ≤ elite.eliteScore) +
            ((sorted scores).drop (k + 1)).countP fun score => score ≤ elite.eliteScore := by
          rw [← List.countP_append, List.take_append_drop]
        _ = k + 1 + ((sorted scores).drop (k + 1)).countP fun score => score ≤ elite.eliteScore := by
          rw [List.countP_eq_length.2 fun score member => decide_eq_true (le_of_mem_take agree bound score member),
            List.length_take, Nat.min_eq_left inside]

theorem bounds_of_select? (selected : select? scores numElite = some elite) :
    elite.minScore ≤ elite.eliteScore ∧ numElite ≤ elite.indices.length := by
  have bound := mem_of_ofRank? (ranks_of_select? selected).2
  refine ⟨minScore_le_of_select? agree selected _ bound, ?_⟩
  rw [length_indices agree selected]
  exact Nat.le_add_right _ _

end Agreeing

theorem select?_of_same {scores : List S} {numElite : Nat} {elite : Elite S} {score : S}
    (same : ∀ x ∈ scores, x = score) (self : score ≤ score) (selected : select? scores numElite = some elite) :
    elite.minScore = elite.eliteScore ∧ elite.indices.length = scores.length := by
  obtain ⟨low, bound⟩ := ranks_of_select? selected
  have low : elite.minScore = score := same _ (mem_of_ofRank? low)
  have bound : elite.eliteScore = score := same _ (mem_of_ofRank? bound)
  refine ⟨low.trans bound.symm, ?_⟩
  rw [indices_of_select? selected, bound, admitted_of_le fun x member => same x member ▸ self, List.length_range]

theorem admitted_congr {xs ys : List S} {bound bound' : S}
    (compares : List.Forall₂ (fun x y => y ≤ bound' ↔ x ≤ bound) xs ys) : admitted ys bound' = admitted xs bound := by
  rw [admitted, admitted]
  generalize 0 = start
  induction compares generalizing start with
  | nil => rfl
  | cons first _ ih => simp only [List.zipIdx_cons, List.filterMap_cons, first, ih]

end Elite
end CrossEntropy
