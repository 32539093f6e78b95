import CrossEntropy.Proofs.AxisSums

namespace CrossEntropy.Tensor
open Finset
variable {α : Type} [AddCommMonoid α] {a : Tensor α} {p q c d k : Nat} {i : List Nat}

theorem inBounds_set (inside : a.shape.InBounds i) (here : i[p]? = some c) (le : k ≤ c) :
    a.shape.InBounds (i.set p k) := by
  obtain ⟨-, x, sums⟩ := exists_sums inside here
  exact (getElem?_eq_some_iff.1 (sums k le).1).1

theorem getElem?_cumsum (inside : a.shape.InBounds i) (here : i[p]? = some c) :
    (a.cumsum p)[i]? = some (∑ k ∈ range (c + 1), a[i.set p k]?.getD 0) := by
  obtain ⟨same, x, sums⟩ := exists_sums inside here
  have whole := (sums c le_rfl).2
  rw [same] at whole
  rw [whole, Option.some_inj]
  apply sum_congr rfl
  intro k hk
  rw [(sums k (Nat.le_of_lt_succ (mem_range.1 hk))).1, Option.getD_some]

theorem getElem?_cumsum_cumsum (apart : p ≠ q) (inside : a.shape.InBounds i) (hp : i[p]? = some c)
    (hq : i[q]? = some d) :
    ((a.cumsum p).cumsum q)[i]? =
      some (∑ l ∈ range (d + 1), ∑ k ∈ range (c + 1), a[(i.set p k).set q l]?.getD 0) := by
  rw [getElem?_cumsum (a := a.cumsum p) inside hq, Option.some_inj]
  apply sum_congr rfl
  intro l hl
  have slice : a.shape.InBounds (i.set q l) := inBounds_set inside hq (Nat.le_of_lt_succ (mem_range.1 hl))
  have there : (i.set q l)[p]? = some c := by rw [List.getElem?_set_ne apart.symm, hp]
  rw [getElem?_cumsum slice there, Option.getD_some]
  simp only [List.set_comm _ _ apart]

omit [AddCommMonoid α] in
theorem exists_coordinate (inside : a.shape.InBounds i) (below : p < a.rank) : ∃ c, i[p]? = some c :=
  ⟨_, List.getElem?_eq_getElem (inside.length_eq ▸ below)⟩

theorem cumsum_comm (a : Tensor α) (p q : Nat) : (a.cumsum p).cumsum q = (a.cumsum q).cumsum p := by
  rcases eq_or_ne p q with rfl | apart
  · rfl
  rcases Nat.lt_or_ge p a.rank with hp | hp
  · rcases Nat.lt_or_ge q a.rank with hq | hq
    · refine ext_getElem? rfl fun {i} whole => ?_
      have inside : a.shape.InBounds i := whole
      obtain ⟨c, hc⟩ := exists_coordinate inside hp
      obtain ⟨d, hd⟩ := exists_coordinate inside hq
      rw [getElem?_cumsum_cumsum apart inside hc hd, getElem?_cumsum_cumsum apart.symm inside hd hc, sum_comm]
      simp only [List.set_comm _ _ apart]
    · rw [cumsum_of_rank_le hq, cumsum_of_rank_le (a := a.cumsum p) hq]
  · rw [cumsum_of_rank_le hp, cumsum_of_rank_le (a := a.cumsum q) hp]

theorem cumsums_over_rectangles (a : Tensor α) (p q : Nat) :
    (a.cumsum p).cumsum q = (a.cumsum q).cumsum p ∧
    (p ≠ q → p < a.rank → q < a.rank → ∀ {i : List Nat}, a.shape.InBounds i →
      ∃ (c d : Nat) (x : Nat → Nat → α), i[p]? = some c ∧ i[q]? = some d ∧
        (∀ k ≤ c, ∀ l ≤ d, a[(i.set p k).set q l]? = some (x k l)) ∧
        ((a.cumsum p).cumsum q)[i]? = some (∑ k ∈ range (c + 1), ∑ l ∈ range (d + 1), x k l)) := by
  refine ⟨cumsum_comm a p q, fun apart hp hq {i} inside => ?_⟩
  obtain ⟨c, hc⟩ := exists_coordinate inside hp
  obtain ⟨d, hd⟩ := exists_coordinate inside hq
  refine ⟨c, d, fun k l => a[(i.set p k).set q l]?.getD 0, hc, hd, fun k hk l hl => ?_, ?_⟩
  · have slice : a.shape.InBounds (i.set p k) := inBounds_set inside hc hk
    have there : (i.set p k)[q]? = some d := by rw [List.getElem?_set_ne apart, hd]
    obtain ⟨x, entry⟩ := exists_entry (inBounds_set slice there hl)
    simp only [entry, Option.getD_some]
  · rw [getElem?_cumsum_cumsum apart inside hc hd, sum_comm]

theorem rectangles_of_ledger :
    0 ≠ 1 ∧ 0 < ledger.rank ∧ 1 < ledger.rank ∧ ledger.shape.InBounds [1, 1] ∧
      (ledger.cumsum 0).cumsum 1 = (ledger.cumsum 1).cumsum 0 ∧
      ((ledger.cumsum 0).cumsum 1)[[1, 1]]? = some (1 + 2 + (4 + 5)) := by
  have inside : ledger.shape.InBounds [1, 1] := by decide
  have below : 0 < ledger.rank ∧ 1 < ledger.rank := by decide
  obtain ⟨commute, rectangle⟩ := cumsums_over_rectangles ledger 0 1
  obtain ⟨c, d, x, hc, hd, entries, total⟩ := rectangle Nat.zero_ne_one below.1 below.2 inside
  obtain rfl : 1 = c := Option.some.inj hc
  obtain rfl : 1 = d := Option.some.inj hd
  have first : 1 = x 0 0 := Option.some.inj (entries 0 (by decide) 0 (by decide))
  have second : 2 = x 0 1 := Option.some.inj (entries 0 (by decide) 1 (by decide))
  have third : 4 = x 1 0 := Option.some.inj (entries 1 (by decide) 0 (by decide))
  have fourth : 5 = x 1 1 := Option.some.inj (entries 1 (by decide) 1 (by decide))
  refine ⟨Nat.zero_ne_one, below.1, below.2, inside, commute, total.trans ?_⟩
  simp only [sum_range_succ, sum_range_zero, zero_add, ← first, ← second, ← third, ← fourth]

end CrossEntropy.Tensor
