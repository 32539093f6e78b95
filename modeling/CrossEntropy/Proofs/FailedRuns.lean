import CrossEntropy.Proofs.Run

namespace CrossEntropy
variable {P α S G σ ω : Type} [Score S] {strategies : Strategies P α S G σ} {observer : Observer P S ω}
  {s t u : Session P α S G σ} {watcher watcher' : ω} {n : Nat} {journal last : Journal P α S}

structure Unscored (s t : Session P α S G σ) : Prop where
  params : t.state.params = s.state.params
  numIters : t.state.numIters = s.state.numIters
  minScore : t.state.minScore = none
  eliteScore : t.state.eliteScore = none

structure Unestimated (s : Session P α S G σ) (elite : Elite S) (t : Session P α S G σ) : Prop where
  params : t.state.params = s.state.params
  numIters : t.state.numIters = s.state.numIters
  minScore : t.state.minScore = some elite.minScore
  eliteScore : t.state.eliteScore = some elite.eliteScore

/-- The scorer was called on the samples of the batch up to one that it failed for, and the best-ever
score and sample have seen the ones before. -/
inductive RejectedAt (strategies : Strategies P α S G σ) (s : Session P α S G σ) (index : Nat)
    (e : SolveError) : Session P α S G σ → Journal P α S → Prop
  | intro {batch drew scorer scores between result memory t journal}
      (drawn : Iteration.Draws strategies (s.withScores none none) batch drew)
      (installed : strategies.scorer = some scorer) (inside : index < batch.extent 0)
      (before : Scores scorer drew.memory (batch.rows.take index) scores between)
      (count : scores.length = index) (returned : scorer (batch.row index inside) between = (result, memory))
      (rejected : rejection index result = some e)
      (best : t.best = s.best.seeAll s.state.settings.trackBest ((batch.rows.take index).zip scores))
      (calls : journal.calls = .generate (s.withScores none none).state ::
        (Journal.scoreCalls 0 ((batch.rows.take index).zip scores) ++
          [.score index (batch.row index inside) result])) :
      RejectedAt strategies s index e t journal

inductive SelectedFrom (strategies : Strategies P α S G σ) (s : Session P α S G σ) (elite : Elite S) :
    Session P α S G σ → Prop
  | intro {batch drew scorer scores memory t}
      (drawn : Iteration.Draws strategies (s.withScores none none) batch drew)
      (installed : strategies.scorer = some scorer)
      (all : Scores scorer drew.memory batch.rows scores memory)
      (selected : Elite.select? scores s.state.settings.numElite = some elite)
      (best : t.best = s.best.seeAll s.state.settings.trackBest (batch.rows.zip scores)) :
      SelectedFrom strategies s elite t

def Leaves (strategies : Strategies P α S G σ) (s t : Session P α S G σ) (journal : Journal P α S)
    (e : SolveError) : Prop :=
  match e with
  | .missing .generate | .generate _ | .batchSize _ _ | .missing .score =>
      Unscored s t ∧ t.best = s.best
  | .score index _ | .nanScore index => Unscored s t ∧ RejectedAt strategies s index e t journal
  | .missing .estimate | .estimate _ | .update _ =>
      ∃ elite, Unestimated s elite t ∧ SelectedFrom strategies s elite t
  | .settings _ | .missingMaxIters | .outOfRange => False

namespace Problem

/-- What remains of a problem when a run of it has failed. The run has completed as many iterations as
it has shown events to its observer. -/
def Remains (p : Problem P α S G σ) (observer : Observer P S ω) (watcher : ω)
    (out : Outcome P α S G σ ω (Except SolveError Ending)) : SolveError → Prop
  | .settings _ => out.session = p.session ∧ out.watcher = watcher ∧ out.journal = []
  | .missingMaxIters =>
      ∃ j before watcher' earlier event last, out.journal.events.length = j + 1 ∧
        Proceeds p.strategies observer j p.fresh watcher before watcher' earlier ∧
        iterate p.strategies before = (.ok event, out.session, last) ∧
        out.session.state.numIters = j + 1 ∧
        out.session.state.minScore = some event.minScore ∧
        out.session.state.eliteScore = some event.eliteScore ∧
        out.journal.calls = (earlier ++ last).calls ++ [.observe event .proceed]
  | e =>
      ∃ before watcher' earlier last,
        Proceeds p.strategies observer out.journal.events.length p.fresh watcher before watcher' earlier ∧
        out.session.state.numIters = out.journal.events.length ∧
        Leaves p.strategies before out.session last e ∧ out.journal = earlier ++ last

end Problem

omit [Score S] in
theorem Unscored.of_state (state : t.state = (s.withScores none none).state) : Unscored s t :=
  ⟨by rw [state]; rfl, by rw [state]; rfl, by rw [state]; rfl, by rw [state]; rfl⟩

open Iteration

theorem Iteration.DrawFails.leaves {e : SolveError}
    (fails : DrawFails strategies (s.withScores none none) e t journal) : Leaves strategies s t journal e := by
  have unscored : Unscored s t := .of_state fails.state
  have best : t.best = s.best := fails.best
  cases fails with
  | missing | failed | missized => exact ⟨unscored, best⟩

theorem Iteration.ScoreFails.leaves {batch : Tensor α} {e : SolveError}
    (drawn : Draws strategies (s.withScores none none) batch t)
    (fails : ScoreFails strategies t batch e u journal) :
    Leaves strategies s u (.generate (s.withScores none none).state :: journal) e := by
  cases fails with
  | missing => exact ⟨.of_state drawn.state, drawn.best⟩
  | @rejected scorer index scores between result memory _ installed inside before returned rejected =>
      have count : scores.length = index := by
        have le : index ≤ batch.rows.length := batch.length_rows ▸ Nat.le_of_lt inside
        rw [before.length_eq, List.length_take, Nat.min_eq_left le]
      have unscored : Unscored s (scored t ((batch.rows.take index).zip scores) memory) := by
        have state := drawn.state
        constructor <;> simp [scored, Session.withBest, Session.withMemory, Session.withScores, state]
      have rejectedAt : RejectedAt strategies s index e (scored t ((batch.rows.take index).zip scores) memory)
          (.generate (s.withScores none none).state :: (scoring t 0 ((batch.rows.take index).zip scores) ++
            [.score index (batch.row index inside) result])) := by
        refine .intro drawn installed inside before count returned rejected ?_ ?_
        · change Best.seeAll _ _ _ = _
          rw [drawn.state, drawn.best]
          rfl
        · refine congrArg (_ :: ·) ?_
          rw [← Journal.calls_scoring t.state.settings.trackBest t.best]
          exact Journal.calls_append _ _
      rcases rejection_eq_some rejected with ⟨failure, rfl⟩ | rfl
      · exact ⟨unscored, rejectedAt⟩
      · exact ⟨unscored, rejectedAt⟩

theorem Iteration.Selects.unestimated {batch chosen : Tensor α} {scores : List S} {elite : Elite S}
    (selects : Selects strategies s batch scores elite chosen t journal) (state : u.state = t.state) :
    Unestimated s elite u := by
  have state := state.trans selects.state
  constructor <;> simp [state]

theorem Iteration.Selects.selectedFrom {batch chosen : Tensor α} {scores : List S} {elite : Elite S}
    (selects : Selects strategies s batch scores elite chosen t journal) (best : u.best = t.best) :
    SelectedFrom strategies s elite u := by
  have seen := best.trans selects.best
  cases selects with
  | intro drawn installed all selected => exact .intro drawn installed all selected seen

theorem Iteration.Course.leaves {e : SolveError} (course : Course strategies s (.error e) t journal) :
    Leaves strategies s t journal e := by
  cases course with
  | undrawn fails => exact fails.leaves
  | unscored drawn fails => exact fails.leaves drawn
  | unestimated selects fails =>
      have unestimated := selects.unestimated fails.state
      have selected := selects.selectedFrom fails.best
      cases fails with
      | missing | failed => exact ⟨_, unestimated, selected⟩
  | unupdated selects estimates fails =>
      have unestimated := selects.unestimated (fails.state.trans estimates.state)
      have selected := selects.selectedFrom (fails.best.trans estimates.best)
      cases fails with
      | failed => exact ⟨_, unestimated, selected⟩

theorem solveUnder_error {p : Problem P α S G σ} {limit : Nat} {e : SolveError}
    {out : Outcome P α S G σ ω (Except SolveError Ending)}
    (made : p.solveUnder observer watcher limit = some out) (failed : out.ending = .error e) :
    p.Remains observer watcher out e := by
  cases valid : p.settings.validate with
  | error invalid =>
      rw [Problem.solveUnder_of_invalid valid] at made
      obtain rfl := Option.some.inj made
      obtain rfl : SolveError.settings invalid = e := Except.error.inj failed
      exact ⟨rfl, rfl, rfl⟩
  | ok =>
      obtain ⟨n, before, watcher', earlier, last, proceeds, -, final, journal⟩ := p.last_step valid made
      obtain ⟨numbered, shown⟩ := proceeds.counted valid
      have numbered : before.state.numIters = n := numbered.trans (Nat.zero_add n)
      rw [failed] at final
      obtain ⟨ending, after, watcher'', whole⟩ := out
      obtain rfl : whole = earlier ++ last := journal
      cases final with
      | fails course =>
          have leaves := course.leaves
          have total : (earlier ++ last).events.length = n := by
            rw [Journal.events_append, course.events, List.append_nil, shown]
          have remains : ∃ before watcher' earlier' last',
              Proceeds p.strategies observer (earlier ++ last).events.length p.fresh watcher before watcher' earlier' ∧
              after.state.numIters = (earlier ++ last).events.length ∧ Leaves p.strategies before after last' e ∧
              earlier ++ last = earlier' ++ last' := by
            rw [total]
            exact ⟨before, _, earlier, last, proceeds, course.uncounted.trans numbered, leaves, rfl⟩
          cases e with
          | settings | missingMaxIters => exact leaves.elim
          | _ => exact remains
      | @undecided event _ journal' notes _ course answer absent unset =>
          obtain ⟨iters, minScore, eliteScore⟩ := course.reports
          refine ⟨n, before, watcher', earlier, event, journal', ?_, proceeds, iterate_of_course course,
            iters.trans (congrArg (· + 1) numbered), minScore, eliteScore, ?_⟩
          · rw [Journal.events_append, reported_events course.events, List.length_append, shown]
            rfl
          · rw [Journal.calls_append, reported_calls, Journal.calls_append, List.append_assoc]

def scoresOnce : Problem Unit Float Float Unit Nat where
  strategies :=
    { generator := some fun _ rng memory => (.ok (Tensor.vector [1.5, 2.5]), rng, memory)
      scorer := some fun _ calls => (if calls = 0 then .ok 1.5 else .error (.custom "out of calls"), calls + 1) }
  session :=
    { state := { State.initial () with settings := { numSamples := 2, numElite := 1, trackBest := true } }
      rng := ()
      memory := 0
      bestSample := none }

theorem remains_scoresOnce :
    ∃ out, scoresOnce.solveUnder .silent () 1 = some out ∧
      out.ending = .error (.score 1 (.custom "out of calls")) ∧ out.session.state.bestScore = 1.5 ∧
      scoresOnce.Remains .silent () out (.score 1 (.custom "out of calls")) := by
  refine ⟨_, rfl, rfl, rfl, ?_⟩
  exact solveUnder_error (show scoresOnce.solveUnder .silent () 1 = some _ from rfl) rfl

end CrossEntropy
