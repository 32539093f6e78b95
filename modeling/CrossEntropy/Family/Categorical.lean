import CrossEntropy.Tensor.Tile
import CrossEntropy.Sampling.InverseCdf

namespace CrossEntropy
variable {R G : Type} [Scalar R]

namespace Categorical

abbrev numValues (p : Tensor R) : Nat := p.extent 0

abbrev numVariables (p : Tensor R) : Nat := p.extent 1

/-- Rows of values picked from the columns, all draws of the first variable before those of the next. -/
def sample [Variates R G] (p : Tensor R) (count : Nat) (g : G) : Except PickError (Tensor Nat) × G :=
  if count = 0 then (.ok (.replicate [0, numVariables p] 0), g)
  else
    let (picked, g) := (p.tile [1, 1, count]).pickPmf 0 g
    (picked.map Tensor.transpose, g)

/-- The samples as a matrix: picks of another rank are refused once they are drawn. -/
def generate [Variates R G] (p : Tensor R) (count : Nat) (g : G) : Except SampleError (Tensor Nat) × G :=
  let (picked, g) := sample p count g
  (do
    let samples ← picked.mapError .pick
    if samples.rank = 2 then return samples else throw .notMatrix, g)

def countSample (numValues : Nat) (counts : Tensor R) (sample : Tensor Nat) :
    Except PickError (Tensor R) :=
  sample.toList.zipIdx.foldlM (fun counts (value, column) =>
    if value < numValues then .ok (counts.modify [value, column] (· + 1))
    else .error (.indexOutOfBounds value [numValues])) counts

/-- How often each variable takes each value; samples without variables are not gone through. -/
def countValues (elite : Tensor Nat) (numValues : Nat) : Except PickError (Tensor R) :=
  let none := Tensor.replicate [numValues, elite.extent 1] 0
  if elite.data.isEmpty then .ok none else elite.rows.foldlM (countSample numValues) none

theorem foldlM_countSample_of_toList_eq_nil {numValues : Nat} {rows : List (Tensor Nat)}
    (blank : ∀ row ∈ rows, row.toList = []) (counts : Tensor R) :
    rows.foldlM (countSample numValues) counts = .ok counts := by
  induction rows with
  | nil => rfl
  | cons row rows ih =>
      have same : countSample numValues counts row = .ok counts := by
        rw [countSample, blank row (.head _)]
        rfl
      rw [List.foldlM_cons, same]
      exact ih fun row h => blank row (.tail _ h)

theorem countValues_eq_foldlM (elite : Tensor Nat) (numValues : Nat) :
    countValues (R := R) elite numValues =
      elite.rows.foldlM (countSample numValues) (.replicate [numValues, elite.extent 1] 0) := by
  unfold countValues
  split
  · rename_i none
    exact (foldlM_countSample_of_toList_eq_nil (fun _ h => Tensor.toList_of_mem_rows none h) _).symm
  · rfl

def fit (elite : Tensor Nat) (numValues : Nat) : Except PickError (Tensor R) := do
  let counts ← countValues elite numValues
  return if elite.extent 0 = 0 then counts else counts.map (· / (elite.extent 0 : R))

def greatestFrom (best : Nat) (value : R) : Nat → List R → Nat
  | _, [] => best
  | k, x :: xs => if value < x then greatestFrom k x (k + 1) xs else greatestFrom best value (k + 1) xs

/-- The least index of a greatest entry. -/
def greatest : List R → Nat
  | [] => 0
  | x :: xs => greatestFrom 0 x 1 xs

def mostLikely (p : Tensor R) : Tensor Nat := p.reduce 0 greatest

end Categorical
end CrossEntropy
