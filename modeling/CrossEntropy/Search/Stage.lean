import CrossEntropy.Search.Strategy

/-!
The parts that a run is put together from. A stage starts from a session, that is all of a problem
that a run changes, and leaves a session, a piece of journal, and a value or an error. What a stage has
changed and written before an error stays.
-/

namespace CrossEntropy
variable {P α S G σ β γ : Type}

structure Session (P α S G σ : Type) where
  state : State P S
  rng : G
  memory : σ
  bestSample : Option (Tensor α)

def Stage (P α S G σ β : Type) :=
  Session P α S G σ → Except SolveError β × Session P α S G σ × Journal P α S

namespace Stage

protected def pure (x : β) : Stage P α S G σ β := fun s => (.ok x, s, [])

protected def bind (m : Stage P α S G σ β) (f : β → Stage P α S G σ γ) : Stage P α S G σ γ := fun s =>
  match m s with
  | (.ok x, s, before) =>
      let (result, s, after) := f x s
      (result, s, before ++ after)
  | (.error e, s, before) => (.error e, s, before)

protected def map (f : β → γ) (m : Stage P α S G σ β) : Stage P α S G σ γ := fun s =>
  match m s with
  | (.ok x, s, journal) => (.ok (f x), s, journal)
  | (.error e, s, journal) => (.error e, s, journal)

instance : Monad (Stage P α S G σ) where
  map := Stage.map
  pure := Stage.pure
  bind := Stage.bind

def fail (e : SolveError) : Stage P α S G σ β := fun s => (.error e, s, [])

def current : Stage P α S G σ (Session P α S G σ) := fun s => (.ok s, s, [])

def change (f : Session P α S G σ → Session P α S G σ) : Stage P α S G σ Unit := fun s => (.ok (), f s, [])

def write (entry : Entry P α S) : Stage P α S G σ Unit := fun s => (.ok (), s, [entry])

def ofExcept (wrap : Failure → SolveError) : Except Failure β → Stage P α S G σ β
  | .ok x => return x
  | .error e => fail (wrap e)

end Stage
end CrossEntropy
