namespace CrossEntropy

abbrev Shape := List Nat

namespace Shape

def InBounds : Shape → List Nat → Prop
  | [], [] => True
  | n :: s, k :: i => k < n ∧ InBounds s i
  | _, _ => False

instance decidableInBounds : (s : Shape) → (i : List Nat) → Decidable (s.InBounds i)
  | [], [] => isTrue trivial
  | [], _ :: _ => isFalse id
  | _ :: _, [] => isFalse id
  | n :: s, k :: i =>
      have := decidableInBounds s i
      inferInstanceAs (Decidable (k < n ∧ InBounds s i))

def size : Shape → Nat
  | [] => 1
  | n :: s => n * size s

def offset : Shape → List Nat → Nat
  | _ :: s, k :: i => k * size s + offset s i
  | _, _ => 0

def subscript : Shape → Nat → List Nat
  | [], _ => []
  | _ :: s, k => k / size s :: subscript s (k % size s)

def subscripts (s : Shape) : List (List Nat) := (List.range s.size).map s.subscript

@[simp] theorem size_nil : size [] = 1 := rfl

@[simp] theorem size_cons (n : Nat) (s : Shape) : size (n :: s) = n * s.size := rfl

theorem size_append (s t : Shape) : size (s ++ t) = s.size * t.size := by
  induction s with
  | nil => simp
  | cons n s ih => simp [ih, Nat.mul_assoc]

theorem size_of_zero_mem {s : Shape} (empty : 0 ∈ s) : s.size = 0 := by
  induction s with
  | nil => cases empty
  | cons n s ih =>
      rcases List.mem_cons.1 empty with rfl | later
      · exact Nat.zero_mul _
      · rw [size_cons, ih later, Nat.mul_zero]

theorem size_eq_mul_eraseIdx {s : Shape} {axis n : Nat} (h : s[axis]? = some n) :
    s.size = n * size (s.eraseIdx axis) := by
  induction s generalizing axis with
  | nil => simp at h
  | cons m s ih =>
      cases axis with
      | zero =>
          obtain rfl : m = n := by simpa using h
          rfl
      | succ axis =>
          simp only [List.eraseIdx_cons_succ, size_cons, ih (by simpa using h)]
          exact Nat.mul_left_comm ..

theorem InBounds.length_eq {s : Shape} {i : List Nat} (h : s.InBounds i) : i.length = s.length := by
  induction s generalizing i with
  | nil => cases i <;> simp_all [InBounds]
  | cons n s ih =>
      cases i with
      | nil => exact h.elim
      | cons k i => simp [ih h.2]

theorem InBounds.tail {n : Nat} {s : Shape} {i : List Nat} (h : InBounds (n :: s) i) :
    s.InBounds i.tail := by
  cases i with
  | nil => exact h.elim
  | cons k i => exact h.2

theorem InBounds.exists_cons {n : Nat} {s : Shape} {i : List Nat} (h : InBounds (n :: s) i) :
    ∃ k j, i = k :: j ∧ k < n ∧ s.InBounds j := by
  cases i with
  | nil => exact h.elim
  | cons k i => exact ⟨k, i, rfl, h⟩

theorem InBounds.exists_pair {m n : Nat} {i : List Nat} (h : InBounds [m, n] i) :
    ∃ k j, i = [k, j] ∧ k < m ∧ j < n := by
  obtain ⟨k, i, rfl, hk, h⟩ := h.exists_cons
  obtain ⟨j, i, rfl, hj, h⟩ := h.exists_cons
  obtain rfl : i = [] := List.eq_nil_of_length_eq_zero h.length_eq
  exact ⟨k, j, rfl, hk, hj⟩

theorem offset_lt {s : Shape} {i : List Nat} (h : s.InBounds i) : s.offset i < s.size := by
  induction s generalizing i with
  | nil => simp [offset]
  | cons n s ih =>
      cases i with
      | nil => exact h.elim
      | cons k i =>
          calc k * size s + offset s i < k * size s + size s := Nat.add_lt_add_left (ih h.2) _
            _ = (k + 1) * size s := (Nat.succ_mul _ _).symm
            _ ≤ n * size s := Nat.mul_le_mul_right _ h.1
            _ = size (n :: s) := rfl

theorem InBounds.zero_notMem {s : Shape} {i : List Nat} (h : s.InBounds i) : 0 ∉ s := fun empty =>
  Nat.not_lt_zero _ (size_of_zero_mem empty ▸ offset_lt h)

theorem inBounds_subscript {s : Shape} {k : Nat} (h : k < s.size) : s.InBounds (s.subscript k) := by
  induction s generalizing k with
  | nil => trivial
  | cons n s ih =>
      rw [size_cons] at h
      have pos : 0 < size s := Nat.pos_of_ne_zero fun z => by simp [z] at h
      exact ⟨Nat.div_lt_of_lt_mul (Nat.mul_comm n _ ▸ h), ih (Nat.mod_lt _ pos)⟩

theorem offset_subscript {s : Shape} {k : Nat} (h : k < s.size) : s.offset (s.subscript k) = k := by
  induction s generalizing k with
  | nil => simp only [size_nil] at h; simp only [offset]; omega
  | cons n s ih =>
      rw [size_cons] at h
      have pos : 0 < size s := Nat.pos_of_ne_zero fun z => by simp [z] at h
      simp only [subscript, offset, ih (Nat.mod_lt _ pos)]
      rw [Nat.mul_comm]
      exact Nat.div_add_mod _ _

theorem subscript_offset {s : Shape} {i : List Nat} (h : s.InBounds i) :
    s.subscript (s.offset i) = i := by
  induction s generalizing i with
  | nil => cases i <;> simp_all [InBounds, subscript]
  | cons n s ih =>
      cases i with
      | nil => exact h.elim
      | cons k i =>
          have lt := offset_lt h.2
          have pos : 0 < size s := by omega
          have quot : (k * size s + offset s i) / size s = k := by
            rw [Nat.mul_comm, Nat.mul_add_div pos, Nat.div_eq_of_lt lt, Nat.add_zero]
          have rem : (k * size s + offset s i) % size s = offset s i := by
            rw [Nat.mul_comm, Nat.mul_add_mod, Nat.mod_eq_of_lt lt]
          simp only [offset, subscript, quot, rem, ih h.2]

theorem inBounds_iff_getElem {s : Shape} {i : List Nat} :
    s.InBounds i ↔ i.length = s.length ∧ ∀ (k : Nat) (hi : k < i.length) (hs : k < s.length), i[k] < s[k] := by
  induction s generalizing i with
  | nil => cases i <;> simp [InBounds]
  | cons n s ih =>
      cases i with
      | nil => simp [InBounds]
      | cons k i =>
          simp only [InBounds, ih, List.length_cons, Nat.add_right_cancel_iff]
          constructor
          · rintro ⟨lt, len, rest⟩
            refine ⟨len, fun j hi hs => ?_⟩
            cases j with
            | zero => exact lt
            | succ j => exact rest j (by omega) (by omega)
          · rintro ⟨len, all⟩
            exact ⟨all 0 (by omega) (by omega), len, fun j hi hs => all (j+1) (by omega) (by omega)⟩

theorem InBounds.reverse {s : Shape} {i : List Nat} (h : s.InBounds i) :
    InBounds s.reverse i.reverse := by
  rw [inBounds_iff_getElem] at h ⊢
  refine ⟨by simp [h.1], fun k hi hs => ?_⟩
  simp only [List.getElem_reverse]
  simp only [List.length_reverse] at hi hs
  have := h.2 (i.length - 1 - k) (by omega) (by omega)
  simpa only [h.1] using this

theorem InBounds.insertIdx {s : Shape} {axis : Nat} {i : List Nat} {k : Nat}
    (h : InBounds (s.eraseIdx axis) i) (hk : k < s[axis]?.getD 0) : s.InBounds (i.insertIdx axis k) := by
  induction s generalizing axis i with
  | nil => simp at hk
  | cons n s ih =>
      cases axis with
      | zero => exact ⟨by simpa using hk, h⟩
      | succ axis =>
          cases i with
          | nil => exact h.elim
          | cons c i => exact ⟨h.1, ih h.2 (by simpa using hk)⟩

theorem InBounds.exists_insertIdx {s : Shape} {axis n : Nat} {i : List Nat} (h : s.InBounds i)
    (extent : s[axis]? = some n) : ∃ j c, InBounds (s.eraseIdx axis) j ∧ c < n ∧ i[axis]? = some c ∧
      j.insertIdx axis c = i ∧ ∀ k, j.insertIdx axis k = i.set axis k := by
  induction s generalizing axis i with
  | nil => simp at extent
  | cons m s ih =>
      obtain ⟨d, i, rfl, hd, h⟩ := h.exists_cons
      cases axis with
      | zero =>
          obtain rfl : m = n := by simpa using extent
          exact ⟨i, d, h, hd, rfl, rfl, fun _ => rfl⟩
      | succ axis =>
          obtain ⟨j, c, inside, hc, here, whole, others⟩ := ih h (by simpa using extent)
          exact ⟨d :: j, c, ⟨hd, inside⟩, hc, here, congrArg (d :: ·) whole, fun k => congrArg (d :: ·) (others k)⟩

end Shape
end CrossEntropy
