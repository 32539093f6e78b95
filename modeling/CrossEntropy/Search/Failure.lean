import CrossEntropy.Sampling.PickError
import CrossEntropy.Search.Settings

namespace CrossEntropy

inductive Failure where
  | pick (error : PickError)
  | sample (error : SampleError)
  | shapes (error : ShapeMismatch)
  /-- Parameters that do not broadcast to a common shape were to be mixed. -/
  | unmixable
  | custom (text : String)
  deriving DecidableEq, Repr

def Failure.message : Failure → String
  | pick e => e.message
  | sample e => e.message
  | shapes e => e.message
  | unmixable => "parameters do not broadcast to a common shape"
  | custom text => text

inductive Role where
  | generate
  | score
  | estimate
  deriving DecidableEq, Repr

def Role.name : Role → String
  | generate => "generate_samples"
  | score => "score_sample"
  | estimate => "estimate"

inductive SolveError where
  | missing (role : Role)
  | missingMaxIters
  | settings (error : SettingsError)
  | generate (failure : Failure)
  | batchSize (expected found : Nat)
  | score (index : Nat) (failure : Failure)
  | nanScore (index : Nat)
  | estimate (failure : Failure)
  | update (failure : Failure)
  /-- A rank or a row was asked for that the batch does not have. -/
  | outOfRange
  deriving DecidableEq, Repr

def SolveError.message : SolveError → String
  | missing role => "no " ++ role.name ++ " strategy provided"
  | missingMaxIters => "no max_iters provided for the default stop decision"
  | settings e => "invalid config: " ++ e.message
  | generate e => "sample generation failed: " ++ e.message
  | batchSize expected found =>
      "generator returned " ++ found.repr ++ " samples, expected " ++ expected.repr
  | score index e => "scoring sample " ++ index.repr ++ " failed: " ++ e.message
  | nanScore index => "sample " ++ index.repr ++ " scored NaN"
  | estimate e => "estimation failed: " ++ e.message
  | update e => "update failed: " ++ e.message
  | outOfRange => "elite selection reached beyond the batch"

end CrossEntropy
