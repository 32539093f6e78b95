import CrossEntropy.Search.Score

namespace CrossEntropy
variable {S : Type} [Score S]

structure Elite (S : Type) where
  minScore : S
  /-- The worst score admitted. -/
  eliteScore : S
  indices : List Nat
  deriving DecidableEq

namespace Elite

def sorted (scores : List S) : List S := scores.mergeSort Score.sortLe

/-- The score of the given rank, counted from one for the lowest. -/
def ofRank? (scores : List S) : Nat → Option S
  | 0 => none
  | k + 1 => (sorted scores)[k]?

def admitted (scores : List S) (bound : S) : List Nat :=
  scores.zipIdx.filterMap fun (score, i) => if score ≤ bound then some i else none

def select? (scores : List S) (numElite : Nat) : Option (Elite S) := do
  let minScore ← ofRank? scores 1
  let eliteScore ← ofRank? scores numElite
  return { minScore, eliteScore, indices := admitted scores eliteScore }

end Elite
end CrossEntropy
