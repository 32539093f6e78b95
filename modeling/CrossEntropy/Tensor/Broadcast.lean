import CrossEntropy.Tensor.Basic

/-!
Combining arrays of different shapes. Shapes are aligned at the last axis, the shorter one is padded
with axes of length one, and an axis of length one stretches to the other array's length. Two arrays
whose lengths differ otherwise do not combine.
-/

namespace CrossEntropy

namespace Shape

def merge? : Shape → Shape → Option Shape
  | [], [] => some []
  | m :: s, n :: t =>
      if m = n then (merge? s t).map (m :: ·)
      else if m = 1 then (merge? s t).map (n :: ·)
      else if n = 1 then (merge? s t).map (m :: ·)
      else none
  | _, _ => none

/-- The subscript that a stretched array reads: coordinate zero on its axes of length one. -/
def shrink : Shape → List Nat → List Nat
  | n :: s, k :: i => (if n = 1 then 0 else k) :: shrink s i
  | _, _ => []

theorem InBounds.shrink_left {s t out : Shape} {i : List Nat} (hm : merge? s t = some out)
    (h : out.InBounds i) : s.InBounds (s.shrink i) := by
  induction s generalizing t out i with
  | nil => simp [InBounds, shrink]
  | cons m s ih =>
      cases t with
      | nil => simp [merge?] at hm
      | cons n t =>
          simp only [merge?] at hm
          split at hm
          · obtain ⟨rest, hr, rfl⟩ := Option.map_eq_some_iff.1 hm
            cases i with
            | nil => exact h.elim
            | cons k i => exact ⟨by have := h.1; grind, ih hr h.2⟩
          · split at hm
            · obtain ⟨rest, hr, rfl⟩ := Option.map_eq_some_iff.1 hm
              cases i with
              | nil => exact h.elim
              | cons k i => exact ⟨by grind, ih hr h.2⟩
            · split at hm
              · obtain ⟨rest, hr, rfl⟩ := Option.map_eq_some_iff.1 hm
                cases i with
                | nil => exact h.elim
                | cons k i => exact ⟨by have := h.1; grind, ih hr h.2⟩
              · simp at hm

theorem merge?_comm (s t : Shape) : merge? s t = merge? t s := by
  induction s generalizing t with
  | nil => cases t <;> rfl
  | cons m s ih => cases t <;> grind [merge?]

theorem InBounds.shrink_right {s t out : Shape} {i : List Nat} (hm : merge? s t = some out)
    (h : out.InBounds i) : t.InBounds (t.shrink i) :=
  InBounds.shrink_left (merge?_comm s t ▸ hm) h

@[simp] theorem merge?_self (s : Shape) : merge? s s = some s := by
  induction s with
  | nil => rfl
  | cons n s ih => simp [merge?, ih]

theorem shrink_eq_self {s : Shape} {i : List Nat} (h : s.InBounds i) : s.shrink i = i := by
  induction s generalizing i with
  | nil => cases i <;> simp_all [InBounds, shrink]
  | cons n s ih =>
      cases i with
      | nil => exact h.elim
      | cons k i =>
          have := h.1
          simp only [shrink, ih h.2]
          grind

end Shape

namespace Tensor
variable {α β γ : Type}

theorem size_replicate_one (n : Nat) : Shape.size (List.replicate n 1) = 1 := by
  induction n with
  | zero => rfl
  | succ n ih => simp [List.replicate_succ, ih]

def padRank (rank : Nat) (a : Tensor α) : Tensor α where
  shape := List.replicate (rank - a.rank) 1 ++ a.shape
  data := a.data
  size_eq := by rw [Shape.size_append, size_replicate_one, Nat.one_mul, a.size_eq]

theorem padRank_of_le {rank : Nat} {a : Tensor α} (h : rank ≤ a.rank) : a.padRank rank = a := by
  ext1 <;> simp [padRank, Nat.sub_eq_zero_of_le h]

def combine? (f : α → β → γ) (a : Tensor α) (b : Tensor β) : Option (Tensor γ) :=
  match h : Shape.merge? a.shape b.shape with
  | none => none
  | some shape =>
      some (ofFn shape fun i hi => f (a.get (a.shape.shrink i) (hi.shrink_left h))
        (b.get (b.shape.shrink i) (hi.shrink_right h)))

def zipWith? (f : α → β → γ) (a : Tensor α) (b : Tensor β) : Option (Tensor γ) :=
  combine? f (a.padRank b.rank) (b.padRank a.rank)

theorem zipWith?_of_shape_eq (f : α → β → γ) {a : Tensor α} {b : Tensor β} (h : a.shape = b.shape) :
    zipWith? f a b = some (ofFn a.shape fun i hi => f (a.get i hi) (b.get i (h ▸ hi))) := by
  have ranks : a.rank = b.rank := congrArg List.length h
  rw [zipWith?, padRank_of_le (Nat.le_of_eq ranks.symm), padRank_of_le (Nat.le_of_eq ranks), combine?]
  split
  · rename_i clash
    simp [h] at clash
  · rename_i shape eq
    obtain rfl : b.shape = shape := by simpa [h] using eq
    congr 1
    refine ext_getElem h.symm fun i hi _ => ?_
    rw [shape_ofFn] at hi
    simp only [getElem_ofFn, Shape.shrink_eq_self hi, Shape.shrink_eq_self (h ▸ hi : a.shape.InBounds i)]

end Tensor
end CrossEntropy
