import CrossEntropy.Moments
import CrossEntropy.Random.Draws
import CrossEntropy.Random.Variates
import CrossEntropy.ShapeMismatch
import CrossEntropy.Mixing

/-!
Independent Beta variables on the unit interval. A variate is `a / (a + b)` of two Erlang variates
whose shapes are the whole parts of the parameters, at least one; so the family is exact for whole
parameters only. Parameters are fitted by matching mean and variance.
-/

namespace CrossEntropy
variable {R G : Type} [Scalar R]

structure Beta (R : Type) where
  alpha : Tensor R
  beta : Tensor R
  deriving DecidableEq

namespace Beta

def numVariables (p : Beta R) : Nat := p.alpha.extent 0

instance : Mix R (Beta R) where
  mix? w a b := do return ⟨← mix? w a.alpha b.alpha, ← mix? w a.beta b.beta⟩

def means? (p : Beta R) : Option (Tensor R) := do
  Tensor.zipWith? (· / ·) p.alpha (← Tensor.zipWith? (· + ·) p.alpha p.beta)

/-- The whole part of a shape, raised to one where it is less or not a number. -/
def wholeShape (x : R) : R := if 1 < Scalar.floor x then Scalar.floor x else 1

/-- Shapes up to this are drawn as sums of exponentials, greater ones as Gamma variates. -/
def sumLimit : R := (64 : Nat)

def exponential [Variates R G] (g : G) : R × G :=
  let (u, g) := Variates.openUniform g
  (-Scalar.log u, g)

def erlang [Variates R G] (shape : R) (g : G) : R × G :=
  let k := wholeShape shape
  if k ≤ sumLimit then
    let (terms, g) := drawMany exponential (Scalar.toNat k) g
    (terms.foldl (· + ·) 0, g)
  else Variates.gamma k g

def variate [Variates R G] (shapes : R × R) (g : G) : R × G :=
  let (a, g) := erlang shapes.1 g
  let (b, g) := erlang shapes.2 g
  (a / (a + b), g)

def shapes (p : Beta R) : List (R × R) := p.alpha.toList.zip p.beta.toList

def batchShapes (p : Beta R) (count : Nat) : List (R × R) :=
  if p.shapes.isEmpty then [] else (List.replicate count p.shapes).flatten

omit [Scalar R] in
theorem batchShapes_eq_flatten (p : Beta R) (count : Nat) :
    p.batchShapes count = (List.replicate count p.shapes).flatten := by
  unfold batchShapes
  split
  · rename_i none
    rw [List.isEmpty_iff.1 none]
    simp
  · rfl

def sample [Variates R G] (p : Beta R) (count : Nat) (g : G) : Except ShapeMismatch (Tensor R) × G :=
  if p.alpha.shape = p.beta.shape then
    let drawn := drawEach variate (p.batchShapes count) g
    (.ok ⟨[count, p.shapes.length], drawn.1.toArray, by simp [drawn, batchShapes_eq_flatten]⟩, drawn.2)
  else (.error ⟨"alpha and beta", p.alpha.shape, p.beta.shape⟩, g)

/-- The shapes with mean `m` and variance `v`, or the current ones if there are none. -/
def matchMoments (m v : R) (current : R × R) : R × R :=
  let q := m * (1 - m)
  if 0 < v ∧ v < q then
    let r := q / v - 1
    (m * r, (1 - m) * r)
  else current

def fit (elite : Tensor R) (current : Beta R) : Except ShapeMismatch (Beta R) :=
  if h : current.alpha.shape = current.beta.shape then
    if elite.shape.tail = current.alpha.shape then
      if elite.extent 0 = 0 then .ok current
      else
        let fitted (i : List Nat) (hi : current.alpha.shape.InBounds i) : R × R :=
          matchMoments (mean (elite.lane 0 i)) (variance (elite.lane 0 i))
            (current.alpha.get i hi, current.beta.get i (h ▸ hi))
        .ok ⟨.ofFn current.alpha.shape fun i hi => (fitted i hi).1,
          .ofFn current.alpha.shape fun i hi => (fitted i hi).2⟩
    else .error ⟨"elite variables and params", elite.shape.tail, current.alpha.shape⟩
  else .error ⟨"alpha and beta", current.alpha.shape, current.beta.shape⟩

end Beta
end CrossEntropy
