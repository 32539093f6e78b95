import CrossEntropy.Search.Strategy

namespace CrossEntropy
variable {P S : Type}

structure ProgressLog where
  interval : Nat := 1
  pos : 0 < interval := by decide

namespace ProgressLog

def every (interval : Nat) : ProgressLog where
  interval := max interval 1
  pos := by omega

def observe (l : ProgressLog) (event : Event P S) : List (LogRecord S) :=
  if event.iter % l.interval = 0 then [.progress event.iter event.minScore event.eliteScore] else []

def toObserver (l : ProgressLog) : Observer P S Unit := fun event _ => (.proceed, l.observe event, ())

end ProgressLog
end CrossEntropy
