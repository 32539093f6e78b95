import CrossEntropy.Family.Strategies
import CrossEntropy.Search.Problem
import CrossEntropy.Watch.EliteSpread
import CrossEntropy.Watch.ProgressLog
import CrossEntropy.Random.ChaCha
import CrossEntropy.Random.FloatVariates
import CrossEntropy.Search.Stock
import CrossEntropy.Proofs.Stage
import CrossEntropy.Proofs.Elite
import CrossEntropy.Proofs.Session
import CrossEntropy.Proofs.Scoring
import CrossEntropy.Proofs.Course
import CrossEntropy.Proofs.Run
import CrossEntropy.Proofs.FailedRuns
import CrossEntropy.Proofs.CallOrder
import CrossEntropy.Proofs.FloatOrder
import CrossEntropy.Proofs.BestEver
import CrossEntropy.Proofs.RunningSums
import CrossEntropy.Proofs.CategoricalDraws
import CrossEntropy.Proofs.IterationLimit
import CrossEntropy.Proofs.Lifetime
import CrossEntropy.Proofs.ClosedFamilies
import CrossEntropy.Proofs.FamilyRuns
import CrossEntropy.Proofs.ExactArithmetic
import CrossEntropy.Proofs.Stochastic
import CrossEntropy.Proofs.PinnedValues
import CrossEntropy.Proofs.Observation
import CrossEntropy.Proofs.SideBySide
import CrossEntropy.Proofs.Indistinguishable
import CrossEntropy.Proofs.SplitRuns
import CrossEntropy.Proofs.SortedScores
import CrossEntropy.Proofs.RankInvariance
import CrossEntropy.Proofs.SampleMoments
import CrossEntropy.Proofs.Reordering
import CrossEntropy.Proofs.BatchOrder
import CrossEntropy.Proofs.Correspondence
import CrossEntropy.Proofs.SeparateVariables
import CrossEntropy.Proofs.Translation
import CrossEntropy.Proofs.MovingAverage
import CrossEntropy.Proofs.Positivity
import CrossEntropy.Proofs.PointMass
import CrossEntropy.Proofs.CommonDraws
import CrossEntropy.Proofs.PassiveTracking
import CrossEntropy.Proofs.LogRecords
import CrossEntropy.Proofs.Chronicle
import CrossEntropy.Proofs.EliteRanks
import CrossEntropy.Proofs.StrategyCalls
import CrossEntropy.Proofs.CoherentStates
import CrossEntropy.Proofs.BatchAccess
import CrossEntropy.Proofs.SpreadStops
import CrossEntropy.Proofs.AxisPicks
import CrossEntropy.Proofs.InversionLaw
import CrossEntropy.Proofs.SubscriptPicks
import CrossEntropy.Proofs.BetaMoments
import CrossEntropy.Proofs.PlaceValues
import CrossEntropy.Proofs.Tiling
import CrossEntropy.Proofs.WindowViews
import CrossEntropy.Proofs.AxisSums
import CrossEntropy.Proofs.NextDraws
import CrossEntropy.Proofs.RectangleSums
import CrossEntropy.Proofs.ColumnMoments
import CrossEntropy.Proofs.ValueShares
import CrossEntropy.Proofs.MostLikely
import CrossEntropy.Proofs.SuccessiveBatches
import CrossEntropy.Proofs.WholeShapes
import CrossEntropy.Proofs.ErlangDraws
import CrossEntropy.Proofs.CollapsedElite
