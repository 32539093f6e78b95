import CrossEntropy.Search.Iteration

/-!
Runs. After each iteration the observer sees the event and may stop the run; otherwise the stop rule
decides. A stop rule may never be satisfied, so `runWithin` makes at most a given number of iterations
and has no result if the run is not over by then; a greater number does not change a result.
-/

namespace CrossEntropy
variable {P α S G σ ω : Type} [Score S]

/-- A run, or the part of it made so far: its end, if it has ended, and what it leaves. -/
structure Outcome (P α S G σ ω ε : Type) where
  ending : ε
  session : Session P α S G σ
  watcher : ω
  journal : Journal P α S

/-- One iteration and what follows it; `none` as its ending lets the run go on. -/
def step (strategies : Strategies P α S G σ) (observer : Observer P S ω) (s : Session P α S G σ)
    (watcher : ω) : Outcome P α S G σ ω (Option (Except SolveError Ending)) :=
  match iterate strategies s with
  | (.error e, s, journal) => ⟨some (.error e), s, watcher, journal⟩
  | (.ok event, s, journal) =>
      let (verdict, notes, watcher) := observer event watcher
      let journal := journal ++ .observe event verdict :: notes.map .log
      match verdict with
      | .stop =>
          ⟨some (.ok .observer), s, watcher,
            journal ++ [.log (.stoppedByObserver s.state.numIters)]⟩
      | .proceed =>
          match finished strategies s with
          | (.error e, s, last) => ⟨some (.error e), s, watcher, journal ++ last⟩
          | (.ok true, s, last) =>
              ⟨some (.ok .stopRule), s, watcher,
                journal ++ last ++ [.log (.finished s.state.numIters event.minScore)]⟩
          | (.ok false, s, last) => ⟨none, s, watcher, journal ++ last⟩

def runWithin (strategies : Strategies P α S G σ) (observer : Observer P S ω) :
    Nat → Session P α S G σ → ω → Option (Outcome P α S G σ ω (Except SolveError Ending))
  | 0, _, _ => none
  | n + 1, s, watcher =>
      let made := step strategies observer s watcher
      match made.ending with
      | some ending => some ⟨ending, made.session, made.watcher, made.journal⟩
      | none =>
          (runWithin strategies observer n made.session made.watcher).map fun rest =>
            { rest with journal := made.journal ++ rest.journal }

theorem runWithin_mono {strategies : Strategies P α S G σ} {observer : Observer P S ω} {n m : Nat}
    {s : Session P α S G σ} {watcher : ω} {result : Outcome P α S G σ ω (Except SolveError Ending)}
    (le : n ≤ m) (h : runWithin strategies observer n s watcher = some result) :
    runWithin strategies observer m s watcher = some result := by
  induction n generalizing m s watcher result with
  | zero => simp [runWithin] at h
  | succ n ih =>
      cases m with
      | zero => omega
      | succ m =>
          simp only [runWithin] at h ⊢
          split at h
          · exact h
          · obtain ⟨rest, hr, rfl⟩ := Option.map_eq_some_iff.1 h
            rw [ih (Nat.le_of_succ_le_succ le) hr]
            rfl

end CrossEntropy
