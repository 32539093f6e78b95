import CrossEntropy.Family.Beta
import CrossEntropy.Family.Categorical
import CrossEntropy.Family.Gaussian
import CrossEntropy.Search.Strategy

namespace CrossEntropy
variable {R S G σ : Type} [Scalar R]

namespace Gaussian

def generator [Variates R G] : Generator (Gaussian R) R S G σ := fun s g memory =>
  let (result, g) := s.params.sample s.settings.numSamples g
  (result.mapError .shapes, g, memory)

def estimator : Estimator (Gaussian R) R S σ := fun elite s memory =>
  (.ok ((fit? elite).getD s.params), memory)

def strategies [Variates R G] : Strategies (Gaussian R) R S G σ where
  generator := some generator
  estimator := some estimator

end Gaussian

namespace Beta

def generator [Variates R G] : Generator (Beta R) R S G σ := fun s g memory =>
  let (result, g) := s.params.sample s.settings.numSamples g
  (result.mapError .shapes, g, memory)

def estimator : Estimator (Beta R) R S σ := fun elite s memory =>
  ((fit elite s.params).mapError .shapes, memory)

def strategies [Variates R G] : Strategies (Beta R) R S G σ where
  generator := some generator
  estimator := some estimator

end Beta

namespace Categorical

def generator [Variates R G] : Generator (Tensor R) Nat S G σ := fun s g memory =>
  let (result, g) := generate s.params s.settings.numSamples g
  (result.mapError .sample, g, memory)

def estimator : Estimator (Tensor R) Nat S σ := fun elite s memory =>
  ((fit elite (numValues s.params)).mapError .pick, memory)

def strategies [Variates R G] : Strategies (Tensor R) Nat S G σ where
  generator := some generator
  estimator := some estimator

end Categorical
end CrossEntropy
