import CrossEntropy.Objective
import CrossEntropy.Random.Draws
import CrossEntropy.Random.Variates
import CrossEntropy.Mixing
import CrossEntropy.Search.Strategy

namespace CrossEntropy
variable {P α R S G σ : Type}

namespace Generator

/-- The given batches in turn, one for each iteration of a run, the last one again after that. -/
def fixed (batches : List (Tensor α)) : Generator P α S G σ := fun s g memory =>
  match batches[min s.numIters (batches.length - 1)]? with
  | some batch => (.ok batch, g, memory)
  | none => (.error (.custom "no batches"), g, memory)

def uniform [Variates R G] (shape : Shape) (convert : R → α) : Generator P α S G σ := fun s g memory =>
  let (variates, g) := Tensor.fill (s.settings.numSamples :: shape) (Variates.uniform (R := R)) g
  (.ok (variates.map convert), g, memory)

def failing (text : String) : Generator P α S G σ := fun _ g memory => (.error (.custom text), g, memory)

end Generator

namespace Scorer

def ofObjective (objective : Objective) (coordinate : α → Float) : Scorer α Float σ := fun sample memory =>
  (.ok (objective.value (sample.toList.map coordinate)), memory)

def nonnegative (objective : Objective) (coordinate : α → Float) (text : String) : Scorer α Float σ :=
  fun sample memory =>
    let value := objective.value (sample.toList.map coordinate)
    (if value < 0 then .error (.custom text) else .ok value, memory)

def table (scores : Array Float) : Scorer α Float Nat := fun _ calls =>
  (.ok (scores[calls % scores.size]?.getD Objective.nan), calls + 1)

end Scorer

namespace Estimator

def keep : Estimator P α S σ := fun _ s memory => (.ok s.params, memory)

def mean : Estimator Float Float S σ := fun elite _ memory =>
  (.ok (Objective.total elite.toList / Float.ofNat elite.data.size), memory)

def failing (text : String) : Estimator P α S σ := fun _ _ memory => (.error (.custom text), memory)

end Estimator

namespace Updater

def keep : Updater P S σ := fun _ s memory => (.ok s.params, memory)

def identity : Updater P S σ := fun estimated _ memory => (.ok estimated, memory)

def mix [Scalar R] [Mix R P] (weight : R) : Updater P S σ := fun estimated s memory =>
  match mix? weight estimated s.params with
  | some params => (.ok params, memory)
  | none => (.error .unmixable, memory)

end Updater

def Smoothing.updater [Scalar R] [Mix R P] (smoothing : Smoothing R) : Updater P S σ :=
  Updater.mix smoothing.weight

namespace StopRule

def when (condition : State P S → Bool) : StopRule P S σ := fun s memory => (condition s, memory)

end StopRule

namespace State

def eliteAtMinimum (s : State P Float) : Bool :=
  match s.minScore, s.eliteScore with
  | some low, some bound => low == bound
  | _, _ => false

def reachedMaxIters (s : State P S) : Bool := s.settings.maxIters.any (· ≤ s.numIters)

end State

def Observer.stopWhen (condition : Event P S → Bool) : Observer P S Unit := fun event _ =>
  (if condition event then .stop else .proceed, [], ())
end CrossEntropy
