import CrossEntropy.Search.Journal

/-!
The parts of a problem that its owner chooses. Each strategy is a function of what it is given, of the
state it is shown and of a memory that all strategies of a problem share, and returns the memory as it
leaves it; a generator does the same with the random generator. An observer has a memory of its own.
-/

namespace CrossEntropy

abbrev Generator (P α S G σ : Type) := State P S → G → σ → Except Failure (Tensor α) × G × σ

abbrev Scorer (α S σ : Type) := Tensor α → σ → Except Failure S × σ

abbrev Estimator (P α S σ : Type) := Tensor α → State P S → σ → Except Failure P × σ

abbrev Updater (P S σ : Type) := P → State P S → σ → Except Failure P × σ

abbrev StopRule (P S σ : Type) := State P S → σ → Bool × σ

structure Strategies (P α S G σ : Type) where
  generator : Option (Generator P α S G σ) := none
  scorer : Option (Scorer α S σ) := none
  estimator : Option (Estimator P α S σ) := none
  /-- Without an updater the estimate becomes the parameters. -/
  updater : Option (Updater P S σ) := none
  /-- Without a stop rule a run ends after the number of iterations in the settings. -/
  stopRule : Option (StopRule P S σ) := none

abbrev Observer (P S ω : Type) := Event P S → ω → Verdict × List (LogRecord S) × ω

def Observer.silent {P S : Type} : Observer P S Unit := fun _ _ => (.proceed, [], ())

end CrossEntropy
