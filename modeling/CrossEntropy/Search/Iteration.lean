import CrossEntropy.Search.Elite
import CrossEntropy.Search.Stage

namespace CrossEntropy
variable {P α S G σ : Type} [Score S]

namespace Iteration
open Stage

def clearScores : Stage P α S G σ Unit :=
  change fun s => { s with state := { s.state with minScore := none, eliteScore := none } }

def draw (strategies : Strategies P α S G σ) : Stage P α S G σ (Tensor α) := do
  let some generator := strategies.generator | fail (.missing .generate)
  let s ← current
  write (.generate s.state)
  let (result, rng, memory) := generator s.state s.rng s.memory
  change fun s => { s with rng, memory }
  let batch ← ofExcept .generate result
  if batch.extent 0 = s.state.settings.numSamples then return batch
  else fail (.batchSize s.state.settings.numSamples (batch.extent 0))

def remember (index : Nat) (sample : Tensor α) (score : S) : Stage P α S G σ Unit := do
  let s ← current
  if s.state.settings.trackBest ∧ score < s.state.bestScore then
    write (.log (.newMinimum index score))
    change fun s => { s with state := { s.state with bestScore := score }, bestSample := some sample }

def scoreSample (scorer : Scorer α S σ) (index : Nat) (sample : Tensor α) : Stage P α S G σ S := do
  let s ← current
  let (result, memory) := scorer sample s.memory
  write (.score index sample result)
  change fun s => { s with memory }
  let score ← ofExcept (.score index) result
  if Score.isNaN score then fail (.nanScore index)
  else
    remember index sample score
    return score

def scoreFrom (scorer : Scorer α S σ) (batch : Tensor α) :
    (left index : Nat) → left + index = batch.extent 0 → Stage P α S G σ (List S)
  | 0, _, _ => return []
  | left + 1, index, h => do
      let score ← scoreSample scorer index (batch.row index (by omega))
      (score :: ·) <$> scoreFrom scorer batch left (index + 1) (by omega)

def scoreBatch (strategies : Strategies P α S G σ) (batch : Tensor α) : Stage P α S G σ (List S) := do
  let some scorer := strategies.scorer | fail (.missing .score)
  scoreFrom scorer batch (batch.extent 0) 0 rfl

def select (scores : List S) : Stage P α S G σ (Elite S) := do
  let s ← current
  let some elite := Elite.select? scores s.state.settings.numElite | fail .outOfRange
  change fun s => { s with state :=
    { s.state with minScore := some elite.minScore, eliteScore := some elite.eliteScore } }
  return elite

def estimate (strategies : Strategies P α S G σ) (elite : Tensor α) : Stage P α S G σ P := do
  let some estimator := strategies.estimator | fail (.missing .estimate)
  let s ← current
  write (.estimate elite s.state)
  let (result, memory) := estimator elite s.state s.memory
  change fun s => { s with memory }
  ofExcept .estimate result

def update (strategies : Strategies P α S G σ) (estimated : P) : Stage P α S G σ P :=
  match strategies.updater with
  | none => return estimated
  | some updater => do
      let s ← current
      write (.update estimated s.state)
      let (result, memory) := updater estimated s.state s.memory
      change fun s => { s with memory }
      ofExcept .update result

def adopt (params : P) (elite : Elite S) : Stage P α S G σ (Event P S) := do
  change fun s => { s with state := { s.state with params, numIters := s.state.numIters + 1 } }
  let s ← current
  write (.log (.iteration s.state.numIters elite.minScore elite.eliteScore elite.indices.length))
  return {
    iter := s.state.numIters
    minScore := elite.minScore
    eliteScore := elite.eliteScore
    eliteCount := elite.indices.length
    bestScore := s.state.bestScore
    params }

end Iteration

open Iteration in
def iterate (strategies : Strategies P α S G σ) : Stage P α S G σ (Event P S) := do
  clearScores
  let batch ← draw strategies
  let scores ← scoreBatch strategies batch
  let elite ← select scores
  let some samples := batch.selectRows? elite.indices | Stage.fail .outOfRange
  let estimated ← estimate strategies samples
  let params ← update strategies estimated
  adopt params elite

def finished (strategies : Strategies P α S G σ) : Stage P α S G σ Bool := do
  let s ← Stage.current
  match strategies.stopRule with
  | some rule =>
      Stage.write (.decideStop s.state)
      let (stop, memory) := rule s.state s.memory
      Stage.change fun s => { s with memory }
      return stop
  | none =>
      let some limit := s.state.settings.maxIters | Stage.fail .missingMaxIters
      return limit ≤ s.state.numIters

end CrossEntropy
