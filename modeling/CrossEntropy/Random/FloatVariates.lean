import CrossEntropy.Random.Gamma
import CrossEntropy.Random.Variates

namespace CrossEntropy

instance {G : Type} [WordSource G] : Variates Float G where
  uniform := Random.uniform
  openUniform := Random.openUniform
  normal := Random.normal
  gamma := Random.gamma

end CrossEntropy
