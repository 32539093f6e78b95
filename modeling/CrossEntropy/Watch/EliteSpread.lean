import CrossEntropy.Search.Strategy

namespace CrossEntropy
variable {P S : Type} [Score S] [Sub S]

structure EliteSpread (S : Type) where
  tolerance : S
  minIters : Nat := 1

namespace EliteSpread

def observe (e : EliteSpread S) (event : Event P S) : Verdict × List (LogRecord S) :=
  let spread := event.eliteScore - event.minScore
  if e.minIters ≤ event.iter ∧ spread ≤ e.tolerance then
    (.stop, [.spreadConverged event.iter spread])
  else (.proceed, [])

def toObserver (e : EliteSpread S) : Observer P S Unit := fun event _ =>
  ((e.observe event).1, (e.observe event).2, ())

end EliteSpread
end CrossEntropy
