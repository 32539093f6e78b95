import CrossEntropy.Decimal.Shortest
import CrossEntropy.Tensor.Broadcast
import CrossEntropy.Scalar

namespace CrossEntropy
variable {R : Type} [Scalar R]

class Mix (R P : Type) where
  mix? : R → P → P → Option P

export Mix (mix?)

instance : Mix R R where
  mix? w a b := some (w * a + (1 - w) * b)

instance : Mix R (Tensor R) where
  mix? w a b := Tensor.zipWith? (· + ·) (a.map (w * ·)) (b.map ((1 - w) * ·))

structure Smoothing (R : Type) [Scalar R] where
  weight : R
  nonneg : 0 ≤ weight
  le_one : weight ≤ 1

structure WeightError (R : Type) where
  weight : R

namespace Smoothing

def ofWeight (w : R) : Except (WeightError R) (Smoothing R) :=
  if h : 0 ≤ w ∧ w ≤ 1 then .ok ⟨w, h.1, h.2⟩ else .error ⟨w⟩

end Smoothing

def WeightError.message (e : WeightError Float) : String :=
  "smoothing weight must be in [0, 1], got " ++ floatText e.weight

end CrossEntropy
