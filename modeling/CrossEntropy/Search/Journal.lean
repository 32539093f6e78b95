import CrossEntropy.Tensor.Basic
import CrossEntropy.Search.Failure
import CrossEntropy.Search.State

namespace CrossEntropy
variable {P α S : Type}

structure Event (P S : Type) where
  iter : Nat
  minScore : S
  eliteScore : S
  /-- The number of elite samples, ties included. -/
  eliteCount : Nat
  bestScore : S
  params : P
  deriving DecidableEq

inductive Verdict where
  | proceed
  | stop
  deriving DecidableEq, Repr

inductive Ending where
  | stopRule
  | observer
  deriving DecidableEq, Repr

inductive Level where
  | info
  | debug
  | trace
  deriving DecidableEq, Repr

inductive LogRecord (S : Type) where
  | newMinimum (index : Nat) (score : S)
  | iteration (iter : Nat) (minScore eliteScore : S) (eliteCount : Nat)
  | stoppedByObserver (iters : Nat)
  | finished (iters : Nat) (minScore : S)
  | spreadConverged (iter : Nat) (spread : S)
  | progress (iter : Nat) (minScore eliteScore : S)
  deriving DecidableEq

namespace LogRecord

inductive Value (S : Type) where
  | count (n : Nat)
  | score (s : S)

def level : LogRecord S → Level
  | newMinimum .. => .trace
  | iteration .. => .debug
  | stoppedByObserver .. => .info
  | finished .. => .info
  | spreadConverged .. => .debug
  | progress .. => .info

def message : LogRecord S → String
  | newMinimum .. => "new overall minimum"
  | iteration .. => "cross-entropy iteration"
  | stoppedByObserver .. => "stopped by observer"
  | finished .. => "cross-entropy run finished"
  | spreadConverged .. => "elite spread converged"
  | progress .. => "cross-entropy progress"

def fields : LogRecord S → List (String × Value S)
  | newMinimum index score => [("index", .count index), ("score", .score score)]
  | iteration iter minScore eliteScore eliteCount =>
      [("iter", .count iter), ("min_score", .score minScore), ("elite_score", .score eliteScore),
        ("elite_count", .count eliteCount)]
  | stoppedByObserver iters => [("iters", .count iters)]
  | finished iters minScore => [("iters", .count iters), ("min_score", .score minScore)]
  | spreadConverged iter spread => [("iter", .count iter), ("spread", .score spread)]
  | progress iter minScore eliteScore =>
      [("iter", .count iter), ("min_score", .score minScore), ("elite_score", .score eliteScore)]

end LogRecord

inductive Entry (P α S : Type) where
  | generate (shown : State P S)
  | score (index : Nat) (sample : Tensor α) (result : Except Failure S)
  | estimate (elite : Tensor α) (shown : State P S)
  | update (estimated : P) (shown : State P S)
  | observe (event : Event P S) (verdict : Verdict)
  | decideStop (shown : State P S)
  | log (entry : LogRecord S)

abbrev Journal (P α S : Type) := List (Entry P α S)

namespace Journal

def logs (journal : Journal P α S) : List (LogRecord S) :=
  journal.filterMap fun | .log r => some r | _ => none

def events (journal : Journal P α S) : List (Event P S × Verdict) :=
  journal.filterMap fun | .observe event verdict => some (event, verdict) | _ => none

end Journal
end CrossEntropy
