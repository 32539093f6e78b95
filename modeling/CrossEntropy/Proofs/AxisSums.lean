import Mathlib.Algebra.Order.BigOperators.Group.Finset
import Mathlib.Algebra.Order.Sub.Basic
import CrossEntropy.Proofs.ExactArithmetic
import CrossEntropy.Proofs.WindowViews

namespace CrossEntropy

namespace Tensor
open Finset
variable {α : Type} {a : Tensor α} {axis c : Nat} {i : List Nat}

theorem exists_sums [AddCommMonoid α] (inside : a.shape.InBounds i) (here : i[axis]? = some c) :
    i.set axis c = i ∧ ∃ x : Nat → α, ∀ k ≤ c, a[i.set axis k]? = some (x k) ∧
      (a.cumsum axis)[i.set axis k]? = some (∑ l ∈ range (k + 1), x l) := by
  obtain ⟨below, -⟩ := List.getElem?_eq_some_iff.1 here
  have extent := List.getElem?_eq_getElem (inside.length_eq ▸ below : axis < a.shape.length)
  obtain ⟨j, d, rest, hd, same, whole, along⟩ := inside.exists_insertIdx extent
  obtain rfl : d = c := Option.some.inj (same.symm.trans here)
  obtain ⟨x, lane⟩ := exists_lane extent (Nat.zero_lt_of_lt hd) rest
  refine ⟨(along d).symm.trans whole, x, fun k hk => ?_⟩
  have lt := Nat.lt_of_le_of_lt hk hd
  rw [← along, (lane.cumsum extent).entry k lt, runningSum_eq]
  exact ⟨lane.entry k lt, rfl⟩

structure SummedAlong [AddCommMonoid α] [PartialOrder α] [Sub α] (axis : Nat) (a b : Tensor α) : Prop where
  shape : b.shape = a.shape
  beyond : a.rank ≤ axis → b = a
  sums : ∀ {i : List Nat} {c : Nat}, a.shape.InBounds i → i[axis]? = some c → ∃ x : Nat → α,
    (∀ k ≤ c, a[i.set axis k]? = some (x k)) ∧ b[i]? = some (∑ k ∈ range (c + 1), x k)
  first : ∀ {i : List Nat}, i[axis]? = some 0 → b[i]? = a[i]?
  difference : ∀ {i : List Nat} {c : Nat} {y y' : α}, i[axis]? = some (c + 1) → b[i]? = some y →
    b[i.set axis c]? = some y' → a[i]? = some (y - y')
  increasing : ∀ {i : List Nat}, (∀ (k : Nat) (x : α), a[i.set axis k]? = some x → 0 ≤ x) →
    ∀ {c d : Nat} {y y' : α}, c ≤ d → b[i.set axis c]? = some y → b[i.set axis d]? = some y' → y ≤ y'

-- Exact numbers, with signs or without: `y + x - y` is `x`.
variable [AddCommMonoid α] [PartialOrder α] [IsOrderedCancelAddMonoid α] [Sub α] [OrderedSub α]

omit [Sub α] [OrderedSub α] in
theorem sum_mono {x : Nat → α} {c d : Nat} (nonneg : ∀ k ≤ d, 0 ≤ x k) (le : c ≤ d) :
    ∑ k ∈ range (c + 1), x k ≤ ∑ k ∈ range (d + 1), x k :=
  sum_le_sum_of_subset_of_nonneg (range_subset_range.2 (Nat.succ_le_succ le)) fun k hk _ =>
    nonneg k (Nat.le_of_lt_succ (mem_range.1 hk))

theorem summedAlong_cumsum (a : Tensor α) (axis : Nat) : SummedAlong axis a (a.cumsum axis) where
  shape := rfl
  beyond := cumsum_of_rank_le
  sums {i c} inside here := by
    obtain ⟨same, x, sums⟩ := exists_sums inside here
    have whole := (sums c le_rfl).2
    rw [same] at whole
    exact ⟨x, fun k hk => (sums k hk).1, whole⟩
  first {i} here := by
    by_cases inside : a.shape.InBounds i
    · obtain ⟨same, x, sums⟩ := exists_sums inside here
      obtain ⟨entry, sum⟩ := sums 0 le_rfl
      rw [same] at entry sum
      rw [sum, entry, sum_range_one]
    · have outside : (a.cumsum axis)[i]? = none := getElem?_eq_none inside
      rw [outside, getElem?_eq_none inside]
  difference {i c y y'} here later before := by
    have inside : a.shape.InBounds i := (getElem?_eq_some_iff.1 later).1
    obtain ⟨same, x, sums⟩ := exists_sums inside here
    obtain ⟨entry, sum⟩ := sums (c + 1) le_rfl
    rw [same] at entry sum
    obtain rfl := Option.some.inj (later.symm.trans sum)
    obtain rfl := Option.some.inj (before.symm.trans (sums c c.le_succ).2)
    rw [entry, sum_range_succ x (c + 1), add_tsub_cancel_left]
  increasing {i} nonneg {c d y y'} le low high := by
    have inside : a.shape.InBounds (i.set axis d) := (getElem?_eq_some_iff.1 high).1
    rcases Nat.lt_or_ge axis i.length with below | beyond
    · have here : (i.set axis d)[axis]? = some d := List.getElem?_set_self below
      obtain ⟨-, x, sums⟩ := exists_sums inside here
      simp only [List.set_set] at sums
      obtain rfl := Option.some.inj (low.symm.trans (sums c le).2)
      obtain rfl := Option.some.inj (high.symm.trans (sums d le_rfl).2)
      exact sum_mono (fun k hk => nonneg k _ (sums k hk).1) le
    · -- Nothing is set, so that the two sums are one entry.
      rw [List.set_eq_of_length_le beyond] at low high
      exact (Option.some.inj (low.symm.trans high)).le

theorem cumsum_along_axis (a : Tensor α) (axis : Nat) :
    SummedAlong axis a (a.cumsum axis) ∧
    ∀ (w : Window) (buffer : Array α) (fits : w.Fits buffer.size),
      (w.cumsum axis buffer).size = buffer.size ∧
      (∀ {i}, w.shape.InBounds i → w.get? (w.cumsum axis buffer) i = ((w.read buffer fits).cumsum axis)[i]?) ∧
      ∀ {p : Nat}, (∀ {i}, w.shape.InBounds i → w.place i ≠ p) → (w.cumsum axis buffer)[p]? = buffer[p]? :=
  ⟨a.summedAlong_cumsum axis, fun w buffer fits =>
    ⟨w.size_cumsum axis buffer, Window.get?_cumsum fits, Window.getElem?_cumsum⟩⟩

def ledger : Tensor ℤ := ⟨[2, 3], #[1, 2, 3, 4, 5, 6], rfl⟩

def backwards : Window := ⟨5, [3], [-1]⟩

theorem place_backwards (h : backwards.shape.InBounds i) : ∃ k < 3, i = [k] ∧ backwards.place i = 5 - k := by
  obtain ⟨k, i, rfl, hk, rest⟩ := Shape.InBounds.exists_cons (n := 3) (s := []) h
  obtain rfl : i = [] := List.eq_nil_of_length_eq_zero rest.length_eq
  refine ⟨k, hk, rfl, ?_⟩
  change (5 + ((k : ℤ) * -1 + 0)).toNat = 5 - k
  omega

theorem fits_backwards : backwards.Fits ledger.data.size where
  inside {i} h := by
    obtain ⟨k, -, -, place⟩ := place_backwards h
    change backwards.place i < 6
    omega
  apart {i j} hi hj same := by
    obtain ⟨k, hk, rfl, first⟩ := place_backwards hi
    obtain ⟨l, hl, rfl, second⟩ := place_backwards hj
    have equal : k = l := by omega
    rw [equal]

theorem cumsum_of_ledger :
    IsOrderedCancelAddMonoid ℤ ∧ OrderedSub ℤ ∧ SummedAlong 1 ledger (ledger.cumsum 1) ∧
      (ledger.cumsum 1)[[1, 2]]? = some 15 ∧
      backwards.get? (backwards.cumsum 0 ledger.data) [2] =
        ((backwards.read ledger.data fits_backwards).cumsum 0)[[2]]? ∧
      (backwards.cumsum 0 ledger.data)[2]? = ledger.data[2]? ∧
      backwards.cumsum 0 ledger.data = #[1, 2, 3, 15, 11, 6] := by
  obtain ⟨-, written, kept⟩ := (cumsum_along_axis ledger 0).2 backwards ledger.data fits_backwards
  have outside {i : List Nat} (h : backwards.shape.InBounds i) : backwards.place i ≠ 2 := by
    obtain ⟨k, hk, -, place⟩ := place_backwards h
    omega
  exact ⟨inferInstance, inferInstance, (cumsum_along_axis ledger 1).1, rfl, written (by decide), kept outside, rfl⟩

end Tensor
end CrossEntropy
