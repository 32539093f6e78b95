import CrossEntropy.Tensor.Basic

namespace CrossEntropy

namespace Shape

def tiled : Shape → List Nat → Shape
  | s, [] => s
  | [], counts => counts
  | n :: s, r :: counts => n * r :: tiled s counts

/-- Each coordinate modulo the length of its axis; coordinates beyond the rank are dropped. -/
def wrap : Shape → List Nat → List Nat
  | n :: s, k :: i => k % n :: wrap s i
  | _, _ => []

theorem InBounds.wrap_self {s : Shape} {i : List Nat} (h : s.InBounds i) : s.wrap i = i := by
  induction s generalizing i with
  | nil => cases i <;> simp_all [InBounds, wrap]
  | cons n s ih =>
      cases i with
      | nil => exact h.elim
      | cons k i => simp [wrap, Nat.mod_eq_of_lt h.1, ih h.2]

theorem InBounds.wrap {s : Shape} {counts i : List Nat} (h : (tiled s counts).InBounds i) :
    s.InBounds (s.wrap i) := by
  induction s generalizing counts i with
  | nil => simp [InBounds, Shape.wrap]
  | cons n s ih =>
      cases i with
      | nil => cases counts <;> exact h.elim
      | cons k i =>
          cases counts with
          | nil => exact h.wrap_self.symm ▸ h
          | cons r counts =>
              have pos : 0 < n := Nat.pos_of_ne_zero fun z => by
                have lt := h.1
                simp [z] at lt
              exact ⟨Nat.mod_lt _ pos, ih h.2⟩

end Shape

namespace Tensor
variable {α : Type}

def tile (a : Tensor α) (counts : List Nat) : Tensor α :=
  if a.rank = 0 ∨ 0 ∈ counts then empty
  else ofFn (Shape.tiled a.shape counts) fun i h => a.get (a.shape.wrap i) h.wrap

end Tensor
end CrossEntropy
