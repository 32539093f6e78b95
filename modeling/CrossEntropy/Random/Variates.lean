namespace CrossEntropy

class Variates (R G : Type) where
  /-- Uniform in `[0, 1)`. -/
  uniform : G → R × G
  /-- Uniform in `(0, 1)`. -/
  openUniform : G → R × G
  normal : G → R × G
  /-- Gamma with the given shape and unit rate. -/
  gamma : R → G → R × G

end CrossEntropy
