import CrossEntropy.Moments
import CrossEntropy.Random.Draws
import CrossEntropy.Random.Variates
import CrossEntropy.ShapeMismatch
import CrossEntropy.Mixing

namespace CrossEntropy
variable {R G : Type} [Scalar R]

structure Gaussian (R : Type) where
  mean : Tensor R
  stddev : Tensor R
  deriving DecidableEq

namespace Gaussian

def sampleShape (p : Gaussian R) : Shape := p.mean.shape

instance : Mix R (Gaussian R) where
  mix? w a b := do return ⟨← mix? w a.mean b.mean, ← mix? w a.stddev b.stddev⟩

def sample [Variates R G] (p : Gaussian R) (count : Nat) (g : G) : Except ShapeMismatch (Tensor R) × G :=
  if h : p.mean.shape = p.stddev.shape then
    let (normals, g) := Tensor.fill (count :: p.mean.shape) (Variates.normal (R := R)) g
    (.ok (.ofFn (count :: p.mean.shape) fun i hi =>
      normals[i]?.getD 0 * p.stddev.get i.tail (h ▸ hi.tail) + p.mean.get i.tail hi.tail), g)
  else (.error ⟨"mean and stddev", p.mean.shape, p.stddev.shape⟩, g)

def fit? (elite : Tensor R) : Option (Gaussian R) :=
  elite.moments?.map fun (mean, variance) => ⟨mean, variance.map Scalar.sqrt⟩

end Gaussian
end CrossEntropy
