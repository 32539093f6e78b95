import CrossEntropy.Tensor.Basic
import CrossEntropy.Scalar

/-!
Mean and sample variance. The variance is accumulated along with a running mean, so that equal values
have variance zero whatever the rounding; its divisor is one less than the number of values, and a
single value has variance zero.
-/

namespace CrossEntropy
variable {R : Type} [Scalar R]

def mean (xs : List R) : R := xs.foldl (· + ·) 0 / (xs.length : R)

structure Deviations (R : Type) where
  count : Nat
  mean : R
  squares : R

namespace Deviations

def start : Deviations R := ⟨0, 0, 0⟩

def add (d : Deviations R) (x : R) : Deviations R :=
  let delta := x - d.mean
  let mean := d.mean + delta / ((d.count + 1 : Nat) : R)
  ⟨d.count + 1, mean, (x - mean) * delta + d.squares⟩

end Deviations

def variance (xs : List R) : R :=
  if 1 < xs.length then (xs.foldl Deviations.add .start).squares / ((xs.length : R) - 1) else 0

def Tensor.moments? (batch : Tensor R) : Option (Tensor R × Tensor R) :=
  if batch.extent 0 = 0 then none else some (batch.reduce 0 CrossEntropy.mean, batch.reduce 0 variance)

end CrossEntropy
