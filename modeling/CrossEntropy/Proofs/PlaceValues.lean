import Mathlib.Algebra.BigOperators.Ring.Finset
import CrossEntropy.Proofs.MixedRadix

namespace CrossEntropy.Shape
open Finset
variable {s : Shape} {i j : List Nat} {c k n : Nat}

def value (s : Shape) (i : List Nat) : Nat := ∑ k ∈ range s.length, i.getD k 0 * size (s.take k)

theorem value_cons (n : Nat) (s : Shape) (c : Nat) (i : List Nat) : value (n :: s) (c :: i) = c + n * value s i := by
  have behind (k : Nat) :
      (c :: i).getD (k + 1) 0 * size ((n :: s).take (k + 1)) = n * (i.getD k 0 * size (s.take k)) := by
    rw [List.getD_cons_succ, List.take_succ_cons, size_cons, Nat.mul_left_comm]
  have first : (c :: i).getD 0 0 * size ((n :: s).take 0) = c := by simp
  rw [value, List.length_cons, sum_range_succ', first, Nat.add_comm]
  simp only [behind, ← mul_sum]
  rfl

theorem value_digits (h : k < s.size) : s.value (s.digits k) = k := by
  induction s generalizing k with
  | nil =>
      rw [size_nil] at h
      exact (Nat.lt_one_iff.1 h).symm
  | cons n s ih => rw [digits, value_cons, ih (Nat.div_lt_of_lt_mul h), Nat.mod_add_div]

theorem digits_value (h : s.InBounds i) : s.digits (s.value i) = i := by
  obtain ⟨k, hk, rfl⟩ := exists_digits h
  rw [value_digits hk]

theorem value_lt (h : s.InBounds i) : s.value i < s.size := by
  obtain ⟨k, hk, rfl⟩ := exists_digits h
  rwa [value_digits hk]

theorem Before.asymm (h : Before i j) : ¬Before j i := by
  induction i generalizing j with
  | nil => exact h.elim
  | cons k i ih =>
      cases j with
      | nil => exact h.elim
      | cons l j =>
          rintro (back | ⟨rfl, back⟩)
          · rcases h with fore | ⟨rfl, -⟩
            · exact ih fore back
            · exact ih back back
          · rcases h with fore | ⟨-, fore⟩
            · exact ih fore fore
            · exact Nat.lt_asymm fore back

theorem before_digits_iff (hc : c < s.size) (hk : k < s.size) : Before (s.digits c) (s.digits k) ↔ c < k := by
  refine ⟨fun before => Nat.lt_of_not_le fun le => ?_, fun less => before_digits less hk⟩
  rcases Nat.lt_or_eq_of_le le with less | rfl
  · exact before.asymm (before_digits less hc)
  · exact before.asymm before

/-- The digits of a number by divisions that have no result where the divisor is zero. -/
def divide? : Shape → Nat → Option (List Nat)
  | [], _ => some []
  | n :: s, k => if n = 0 then none else (divide? s (k / n)).map (k % n :: ·)

def subscriptByDivision? (s : Shape) (index : Nat) : Option (Except PickError (List Nat)) :=
  if index < s.size then (s.divide? index).map .ok else some (.error (.indexOutOfBounds index s))

theorem divide?_eq_digits (h : k < s.size) : s.divide? k = some (s.digits k) := by
  induction s generalizing k with
  | nil => rfl
  | cons n s ih =>
      have pos : n ≠ 0 := Nat.ne_of_gt (pos_of_lt_size h)
      rw [divide?, if_neg pos, ih (Nat.div_lt_of_lt_mul h)]
      rfl

theorem subscriptOfFlat_eq_ok_iff : s.subscriptOfFlat k = .ok i ↔ k < s.size ∧ s.digits k = i := by
  unfold subscriptOfFlat
  split <;> simp_all

theorem subscriptOfFlat_eq_error_iff {e : PickError} :
    s.subscriptOfFlat k = .error e ↔ s.size ≤ k ∧ e = .indexOutOfBounds k s := by
  unfold subscriptOfFlat
  split
  · rename_i inside
    simp [Nat.not_le_of_lt inside]
  · rename_i outside
    simp [Nat.le_of_not_lt outside, eq_comm]

theorem subscriptByDivision?_eq (s : Shape) (k : Nat) : s.subscriptByDivision? k = some (s.subscriptOfFlat k) := by
  unfold subscriptByDivision? subscriptOfFlat
  split
  · rename_i inside
    rw [divide?_eq_digits inside]
    rfl
  · rfl

theorem bijOn_subscriptOfFlat (s : Shape) :
    Set.BijOn s.subscriptOfFlat (Set.Iio s.size) (Except.ok '' {i | s.InBounds i}) := by
  have found {k : Nat} (hk : k < s.size) : s.subscriptOfFlat k = .ok (s.digits k) :=
    subscriptOfFlat_eq_ok_iff.2 ⟨hk, rfl⟩
  refine ⟨fun k hk => ?_, fun k hk l hl same => ?_, ?_⟩
  · exact ⟨_, inBounds_digits hk, (found hk).symm⟩
  · rw [found hk, found hl] at same
    rw [← value_digits hk, Except.ok.inj same, value_digits hl]
  · rintro _ ⟨i, inside, rfl⟩
    exact ⟨s.value i, value_lt inside, by rw [found (value_lt inside), digits_value inside]⟩

theorem mixed_radix_bijection (s : Shape) :
    (∀ index e, s.subscriptOfFlat index = .error e ↔ s.size ≤ index ∧ e = .indexOutOfBounds index s) ∧
    (∀ index < s.size, ∃ i, s.subscriptOfFlat index = .ok i ∧ i.length = s.length ∧
      (∀ (k : Nat) (hi : k < i.length) (hs : k < s.length), i[k] < s[k]) ∧
      ∑ k ∈ range s.length, i.getD k 0 * size (s.take k) = index) ∧
    Set.BijOn s.subscriptOfFlat (Set.Iio s.size) (Except.ok '' {i | s.InBounds i}) ∧
    (∀ {k l i j}, s.subscriptOfFlat k = .ok i → s.subscriptOfFlat l = .ok j → (k < l ↔ Before i j)) ∧
    ∀ index, s.subscriptByDivision? index = some (s.subscriptOfFlat index) := by
  refine ⟨fun _ _ => subscriptOfFlat_eq_error_iff, fun index inside => ?_, s.bijOn_subscriptOfFlat, ?_,
    s.subscriptByDivision?_eq⟩
  · obtain ⟨length, below⟩ := inBounds_iff_getElem.1 (inBounds_digits inside)
    exact ⟨_, subscriptOfFlat_eq_ok_iff.2 ⟨inside, rfl⟩, length, below, value_digits inside⟩
  · intro k l i j first second
    obtain ⟨hk, rfl⟩ := subscriptOfFlat_eq_ok_iff.1 first
    obtain ⟨hl, rfl⟩ := subscriptOfFlat_eq_ok_iff.1 second
    exact (before_digits_iff hk hl).symm

end CrossEntropy.Shape
