import CrossEntropy.Search.Settings
import CrossEntropy.Search.Score

namespace CrossEntropy
variable {P S : Type}

structure State (P S : Type) where
  params : P
  settings : Settings
  numIters : Nat
  /-- The lowest score of the current batch, once that is scored. -/
  minScore : Option S
  /-- The worst score in the elite of the current batch, once that is scored. -/
  eliteScore : Option S
  /-- The best score seen while the best-ever sample was kept. -/
  bestScore : S
  deriving DecidableEq

namespace State

def initial [Score S] (params : P) : State P S where
  params
  settings := {}
  numIters := 0
  minScore := none
  eliteScore := none
  bestScore := Score.worst

end State
end CrossEntropy
