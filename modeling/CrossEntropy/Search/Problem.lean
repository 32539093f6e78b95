import CrossEntropy.Search.Run

namespace CrossEntropy
variable {P α S G σ ω : Type}

structure Problem (P α S G σ : Type) where
  strategies : Strategies P α S G σ
  session : Session P α S G σ

namespace Problem

def new [Score S] (strategies : Strategies P α S G σ) (params : P) (rng : G) (memory : σ) :
    Problem P α S G σ where
  strategies
  session := { state := .initial params, rng, memory, bestSample := none }

abbrev state (p : Problem P α S G σ) : State P S := p.session.state

abbrev params (p : Problem P α S G σ) : P := p.state.params

abbrev settings (p : Problem P α S G σ) : Settings := p.state.settings

def withSession (p : Problem P α S G σ) (f : Session P α S G σ → Session P α S G σ) : Problem P α S G σ :=
  { p with session := f p.session }

def withStrategies (p : Problem P α S G σ) (f : Strategies P α S G σ → Strategies P α S G σ) :
    Problem P α S G σ :=
  { p with strategies := f p.strategies }

def withSettings (p : Problem P α S G σ) (f : Settings → Settings) : Problem P α S G σ :=
  p.withSession fun s => { s with state := { s.state with settings := f s.state.settings } }

def withParams (p : Problem P α S G σ) (params : P) : Problem P α S G σ :=
  p.withSession fun s => { s with state := { s.state with params } }

def withRng (p : Problem P α S G σ) (rng : G) : Problem P α S G σ :=
  p.withSession fun s => { s with rng }

def withMemory (p : Problem P α S G σ) (memory : σ) : Problem P α S G σ :=
  p.withSession fun s => { s with memory }

/-- Runs the problem under an observer, for at most `limit` iterations. A run with invalid settings
fails before anything is changed; any other starts counting iterations at zero. -/
def solveUnder [Score S] (p : Problem P α S G σ) (observer : Observer P S ω) (watcher : ω)
    (limit : Nat) : Option (Outcome P α S G σ ω (Except SolveError Ending)) :=
  match p.settings.validate with
  | .error e => some ⟨.error (.settings e), p.session, watcher, []⟩
  | .ok () =>
      runWithin p.strategies observer limit { p.session with state := { p.state with numIters := 0 } } watcher

def solve [Score S] (p : Problem P α S G σ) (limit : Nat) :
    Option (Outcome P α S G σ Unit (Except SolveError Ending)) :=
  p.solveUnder .silent () limit

end Problem
end CrossEntropy
