namespace CrossEntropy

inductive Objective where
  | first
  | sum
  | negatedSum
  | squaredDistance (target : List Float)
  | rosenbrock (a b : Float)
  | hamming (target : List Float)
  /-- The weight of a cut, negated: costs count from lower to greater coordinates. -/
  | cut (cost : List (List Float))

namespace Objective

def nan : Float := 0.0 / 0.0

def total (xs : List Float) : Float := xs.foldl (· + ·) 0.0

def cutCosts (cost : List (List Float)) (xs : List Float) : List Float :=
  (cost.zip xs).flatMap fun (row, x) => (row.zip xs).filterMap fun (c, y) => if x < y then some c else none

def value : Objective → List Float → Float
  | first, xs => xs.head?.getD nan
  | sum, xs => total xs
  | negatedSum, xs => -total xs
  | squaredDistance target, xs => total (List.zipWith (fun x t => (x - t) * (x - t)) xs target)
  | rosenbrock a b, x :: y :: _ => (a - x) * (a - x) + b * ((y - x * x) * (y - x * x))
  | rosenbrock .., _ => nan
  | hamming target, xs => Float.ofNat ((xs.zip target).countP fun (x, t) => x != t)
  | cut cost, xs => -total (cutCosts cost xs)

end Objective
end CrossEntropy
