import Mathlib.Algebra.BigOperators.Field
import Mathlib.Analysis.SpecialFunctions.Log.Basic
import Mathlib.Analysis.SpecialFunctions.Sqrt
import CrossEntropy.Proofs.Frequencies
import CrossEntropy.Proofs.RunningSums

namespace CrossEntropy
open Finset

noncomputable instance realScalar : Scalar ℝ where
  sqrt := Real.sqrt
  log := Real.log
  floor x := ⌊x⌋
  toNat x := ⌊x⌋₊
  decLt := inferInstance
  decLe := inferInstance

theorem Tensor.addOnes_eq (x : ℝ) (n : Nat) : addOnes x n = x + n := by
  induction n generalizing x with
  | zero => rw [addOnes, Nat.cast_zero, add_zero]
  | succ n ih => rw [addOnes, ih, Nat.cast_succ, add_assoc, add_comm (1 : ℝ)]

theorem runningSum_eq {α : Type} [AddCommMonoid α] (f : Nat → α) (k : Nat) :
    runningSum f k = ∑ i ∈ range (k + 1), f i := by
  induction k with
  | zero => rw [runningSum, sum_range_one]
  | succ k ih => rw [runningSum, ih, sum_range_succ f (k + 1), add_comm]

end CrossEntropy
