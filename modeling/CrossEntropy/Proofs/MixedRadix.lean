import CrossEntropy.Proofs.RunningSums
import CrossEntropy.Sampling.FlatIndex

namespace CrossEntropy.Shape
variable {s : Shape} {i : List Nat} {j k n : Nat}

/-- Subscripts compared from the last axis to the first. -/
def Before : List Nat → List Nat → Prop
  | k :: i, l :: j => Before i j ∨ (i = j ∧ k < l)
  | _, _ => False

theorem pos_of_lt_size (h : k < size (n :: s)) : 0 < n :=
  Nat.pos_of_ne_zero fun none => by simp [none] at h

theorem inBounds_digits (h : k < s.size) : s.InBounds (s.digits k) := by
  induction s generalizing k with
  | nil => trivial
  | cons n s ih => exact ⟨Nat.mod_lt k (pos_of_lt_size h), ih (Nat.div_lt_of_lt_mul h)⟩

theorem before_digits (less : j < k) (h : k < s.size) : Before (s.digits j) (s.digits k) := by
  induction s generalizing j k with
  | nil =>
      rw [size_nil] at h
      omega
  | cons n s ih =>
      rcases Nat.lt_or_eq_of_le (Nat.div_le_div_right (c := n) (Nat.le_of_lt less)) with quotient | quotient
      · exact .inl (ih quotient (Nat.div_lt_of_lt_mul h))
      · refine .inr ⟨congrArg (digits s) quotient, ?_⟩
        have low := Nat.div_add_mod j n
        have high := Nat.div_add_mod k n
        rw [quotient] at low
        omega

theorem exists_digits (h : s.InBounds i) : ∃ k < s.size, s.digits k = i := by
  induction s generalizing i with
  | nil =>
      cases i with
      | nil => exact ⟨0, Nat.one_pos, rfl⟩
      | cons => exact h.elim
  | cons n s ih =>
      obtain ⟨c, i, rfl, hc, h⟩ := h.exists_cons
      obtain ⟨k, hk, rfl⟩ := ih h
      have pos : 0 < n := Nat.zero_lt_of_lt hc
      refine ⟨c + n * k, ?_, ?_⟩
      · calc c + n * k < n + n * k := Nat.add_lt_add_right hc _
          _ = n * (k + 1) := by rw [Nat.mul_succ, Nat.add_comm]
          _ ≤ n * size s := Nat.mul_le_mul_left n hk
      · rw [digits, Nat.add_mul_mod_self_left, Nat.mod_eq_of_lt hc, Nat.add_mul_div_left c k pos, Nat.div_eq_of_lt hc,
          Nat.zero_add]

structure FirstFastest (s : Shape) (order : List (List Nat)) : Prop where
  mem : ∀ {i}, i ∈ order ↔ s.InBounds i
  sorted : order.Pairwise Before

theorem firstFastest_digits (s : Shape) : s.FirstFastest ((List.range s.size).map s.digits) where
  mem {i} := by
    constructor
    · intro member
      obtain ⟨k, hk, rfl⟩ := List.mem_map.1 member
      exact inBounds_digits (List.mem_range.1 hk)
    · intro inside
      obtain ⟨k, hk, digits⟩ := exists_digits inside
      exact List.mem_map.2 ⟨k, List.mem_range.2 hk, digits⟩
  sorted := List.pairwise_map.2 <|
    List.pairwise_lt_range.imp_of_mem fun _ hk less => before_digits less (List.mem_range.1 hk)

theorem size_reverse (s : Shape) : size s.reverse = s.size := by
  induction s with
  | nil => rfl
  | cons n s ih => simp [size_append, ih, Nat.mul_comm]

theorem subscript_append (h : k < size (s ++ [n])) : subscript (s ++ [n]) k = subscript s (k / n) ++ [k % n] := by
  induction s generalizing k with
  | nil =>
      have hk : k < n := by simpa using h
      simp [subscript, Nat.mod_eq_of_lt hk]
  | cons m s ih =>
      have size_eq : size (s ++ [n]) = n * size s := by simp [size_append, Nat.mul_comm]
      have pos : 0 < size (s ++ [n]) := Nat.pos_of_ne_zero fun none => by simp [none] at h
      rw [List.cons_append, subscript, ih (Nat.mod_lt k pos), size_eq, subscript, Nat.div_div_eq_div_mul,
        Nat.mod_mul_right_div_self, Nat.mod_mul_right_mod, List.cons_append]

theorem reverse_subscript (h : k < s.size) : (subscript s.reverse k).reverse = s.digits k := by
  induction s generalizing k with
  | nil => rfl
  | cons n s ih =>
      rw [List.reverse_cons, subscript_append (by rwa [← List.reverse_cons, size_reverse]), List.reverse_append,
        ih (Nat.div_lt_of_lt_mul h)]
      rfl

end CrossEntropy.Shape
