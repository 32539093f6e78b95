import CrossEntropy.Proofs.Run

namespace CrossEntropy
variable {P α S G σ ω : Type} [Score S]

structure Turn (P α S G σ : Type) where
  iter : Nat
  params : P
  best : Best α S
  rng : G
  memory : σ

def Turn.shown (turn : Turn P α S G σ) (c : Settings) (elite : Option (Elite S)) : State P S where
  params := turn.params
  settings := c
  numIters := turn.iter
  minScore := elite.map Elite.minScore
  eliteScore := elite.map Elite.eliteScore
  bestScore := turn.best.score

def Turn.reports (turn : Turn P α S G σ) (elite : Elite S) : Event P S where
  iter := turn.iter
  minScore := elite.minScore
  eliteScore := elite.eliteScore
  eliteCount := elite.indices.length
  bestScore := turn.best.score
  params := turn.params

namespace CallOrder

inductive Drawn (strategies : Strategies P α S G σ) (c : Settings) (turn : Turn P α S G σ) :
    Tensor α → G → σ → Prop
  | intro {generator batch rng memory} (installed : strategies.generator = some generator)
      (returned : generator (turn.shown c none) turn.rng turn.memory = (.ok batch, rng, memory))
      (sized : batch.extent 0 = c.numSamples) : Drawn strategies c turn batch rng memory

/-- The calls up to the last sample of a batch. The first array has the elite rows of the batch. -/
inductive Scored (strategies : Strategies P α S G σ) (c : Settings) (turn : Turn P α S G σ) :
    Tensor α → Elite S → Turn P α S G σ → Journal P α S → Prop
  | intro {batch rng between scorer scores memory elite chosen}
      (drawn : Drawn strategies c turn batch rng between) (installed : strategies.scorer = some scorer)
      (all : Scores scorer between batch.rows scores memory)
      (selected : Elite.select? scores c.numElite = some elite)
      (rows : chosen.rows = Elite.within elite.eliteScore batch.rows scores)
      (shape : chosen.shape = chosen.extent 0 :: batch.shape.tail) :
      Scored strategies c turn chosen elite
        { turn with best := turn.best.seeAll c.trackBest (batch.rows.zip scores), rng, memory }
        (.generate (turn.shown c none) :: Journal.scoreCalls 0 (batch.rows.zip scores))

inductive Completed (strategies : Strategies P α S G σ) (c : Settings) (turn : Turn P α S G σ) :
    Elite S → Turn P α S G σ → Journal P α S → Prop
  | estimated {chosen elite scored calls estimator params memory}
      (batch : Scored strategies c turn chosen elite scored calls)
      (installed : strategies.estimator = some estimator)
      (returned : estimator chosen (scored.shown c (some elite)) scored.memory = (.ok params, memory))
      (absent : strategies.updater = none) :
      Completed strategies c turn elite { scored with iter := turn.iter + 1, params, memory }
        (calls ++ [.estimate chosen (scored.shown c (some elite))])
  | updated {chosen elite scored calls estimator estimated between updater params memory}
      (batch : Scored strategies c turn chosen elite scored calls)
      (installed : strategies.estimator = some estimator)
      (returned : estimator chosen (scored.shown c (some elite)) scored.memory = (.ok estimated, between))
      (updates : strategies.updater = some updater)
      (changed : updater estimated (scored.shown c (some elite)) between = (.ok params, memory)) :
      Completed strategies c turn elite { scored with iter := turn.iter + 1, params, memory }
        (calls ++ [.estimate chosen (scored.shown c (some elite)),
          .update estimated (scored.shown c (some elite))])

inductive Truncated (strategies : Strategies P α S G σ) (c : Settings) (turn : Turn P α S G σ) :
    Journal P α S → Prop
  | noGenerator (absent : strategies.generator = none) : Truncated strategies c turn []
  | generator {generator failure rng memory} (installed : strategies.generator = some generator)
      (returned : generator (turn.shown c none) turn.rng turn.memory = (.error failure, rng, memory)) :
      Truncated strategies c turn [.generate (turn.shown c none)]
  | batchSize {generator batch rng memory} (installed : strategies.generator = some generator)
      (returned : generator (turn.shown c none) turn.rng turn.memory = (.ok batch, rng, memory))
      (missized : batch.extent 0 ≠ c.numSamples) : Truncated strategies c turn [.generate (turn.shown c none)]
  | noScorer {batch rng memory} (drawn : Drawn strategies c turn batch rng memory)
      (absent : strategies.scorer = none) : Truncated strategies c turn [.generate (turn.shown c none)]
  | scorer {batch rng memory scorer index scores between result last e}
      (drawn : Drawn strategies c turn batch rng memory) (installed : strategies.scorer = some scorer)
      (inside : index < batch.extent 0) (before : Scores scorer memory (batch.rows.take index) scores between)
      (returned : scorer (batch.row index inside) between = (result, last))
      (rejected : rejection index result = some e) :
      Truncated strategies c turn (.generate (turn.shown c none) ::
        (Journal.scoreCalls 0 ((batch.rows.take index).zip scores) ++
          [.score index (batch.row index inside) result]))
  | noEstimator {chosen elite scored calls} (batch : Scored strategies c turn chosen elite scored calls)
      (absent : strategies.estimator = none) : Truncated strategies c turn calls
  | estimator {chosen elite scored calls estimator failure memory}
      (batch : Scored strategies c turn chosen elite scored calls)
      (installed : strategies.estimator = some estimator)
      (returned : estimator chosen (scored.shown c (some elite)) scored.memory = (.error failure, memory)) :
      Truncated strategies c turn (calls ++ [.estimate chosen (scored.shown c (some elite))])
  | updater {chosen elite scored calls estimator estimated between updater failure memory}
      (batch : Scored strategies c turn chosen elite scored calls)
      (installed : strategies.estimator = some estimator)
      (returned : estimator chosen (scored.shown c (some elite)) scored.memory = (.ok estimated, between))
      (updates : strategies.updater = some updater)
      (failed : updater estimated (scored.shown c (some elite)) between = (.error failure, memory)) :
      Truncated strategies c turn (calls ++ [.estimate chosen (scored.shown c (some elite)),
        .update estimated (scored.shown c (some elite))])

inductive Round (strategies : Strategies P α S G σ) (observer : Observer P S ω) (c : Settings)
    (turn : Turn P α S G σ) (watcher : ω) : Turn P α S G σ → ω → Journal P α S → Prop
  | rule {elite next calls notes watcher' rule memory} (completed : Completed strategies c turn elite next calls)
      (answer : observer (next.reports elite) watcher = (.proceed, notes, watcher'))
      (installed : strategies.stopRule = some rule)
      (returned : rule (next.shown c (some elite)) next.memory = (false, memory)) :
      Round strategies observer c turn watcher { next with memory } watcher'
        (calls ++ [.observe (next.reports elite) .proceed, .decideStop (next.shown c (some elite))])
  | limit {elite next calls notes watcher' limit} (completed : Completed strategies c turn elite next calls)
      (answer : observer (next.reports elite) watcher = (.proceed, notes, watcher'))
      (absent : strategies.stopRule = none) (set : c.maxIters = some limit) (below : next.iter < limit) :
      Round strategies observer c turn watcher next watcher'
        (calls ++ [.observe (next.reports elite) .proceed])

inductive Rounds (strategies : Strategies P α S G σ) (observer : Observer P S ω) (c : Settings) :
    Nat → Turn P α S G σ → ω → Turn P α S G σ → ω → Journal P α S → Prop
  | refl {turn : Turn P α S G σ} {watcher : ω} : Rounds strategies observer c 0 turn watcher turn watcher []
  | next {n : Nat} {turn turn' turn'' : Turn P α S G σ} {watcher watcher' watcher'' : ω}
      {calls later : Journal P α S} (first : Round strategies observer c turn watcher turn' watcher' calls)
      (rest : Rounds strategies observer c n turn' watcher' turn'' watcher'' later) :
      Rounds strategies observer c (n + 1) turn watcher turn'' watcher'' (calls ++ later)

inductive LastRound (strategies : Strategies P α S G σ) (observer : Observer P S ω) (c : Settings)
    (turn : Turn P α S G σ) (watcher : ω) : Journal P α S → Prop
  | fails {calls} (truncated : Truncated strategies c turn calls) :
      LastRound strategies observer c turn watcher calls
  | stopped {elite next calls notes watcher'} (completed : Completed strategies c turn elite next calls)
      (answer : observer (next.reports elite) watcher = (.stop, notes, watcher')) :
      LastRound strategies observer c turn watcher (calls ++ [.observe (next.reports elite) .stop])
  | rule {elite next calls notes watcher' rule memory} (completed : Completed strategies c turn elite next calls)
      (answer : observer (next.reports elite) watcher = (.proceed, notes, watcher'))
      (installed : strategies.stopRule = some rule)
      (returned : rule (next.shown c (some elite)) next.memory = (true, memory)) :
      LastRound strategies observer c turn watcher
        (calls ++ [.observe (next.reports elite) .proceed, .decideStop (next.shown c (some elite))])
  | limit {elite next calls notes watcher'} (completed : Completed strategies c turn elite next calls)
      (answer : observer (next.reports elite) watcher = (.proceed, notes, watcher'))
      (absent : strategies.stopRule = none) (reached : ∀ limit, c.maxIters = some limit → limit ≤ next.iter) :
      LastRound strategies observer c turn watcher (calls ++ [.observe (next.reports elite) .proceed])

end CallOrder

variable {strategies : Strategies P α S G σ} {observer : Observer P S ω} {s t u : Session P α S G σ}
  {watcher watcher' : ω} {n : Nat} {journal : Journal P α S}

def Session.turn (s : Session P α S G σ) : Turn P α S G σ :=
  ⟨s.state.numIters, s.state.params, s.best, s.rng, s.memory⟩

open Iteration CallOrder

omit [Score S] in
theorem Iteration.Draws.drawn {batch : Tensor α} (h : Draws strategies (s.withScores none none) batch t) :
    Drawn strategies s.state.settings s.turn batch t.rng t.memory := by
  cases h with
  | intro installed returned sized => exact .intro installed returned sized

theorem Iteration.Selects.scored {batch chosen : Tensor α} {scores : List S} {elite : Elite S}
    (h : Selects strategies s batch scores elite chosen t journal) :
    Scored strategies s.state.settings s.turn chosen elite t.turn journal.calls := by
  obtain ⟨rows, shape⟩ := h.chosen
  cases h with
  | intro drawn installed all selected picked =>
      have scored := Scored.intro drawn.drawn installed all selected rows shape
      rw [← Journal.calls_scoring s.state.settings.trackBest s.best] at scored
      cases drawn
      exact scored

theorem Iteration.Selects.shown {batch chosen : Tensor α} {scores : List S} {elite : Elite S}
    (h : Selects strategies s batch scores elite chosen t journal) :
    t.turn.shown s.state.settings (some elite) = t.state := by
  have state := h.state
  simp [Turn.shown, Session.turn, Session.best, state]

theorem Iteration.Course.truncated {e : SolveError} (course : Course strategies s (.error e) t journal) :
    Truncated strategies s.state.settings s.turn journal.calls := by
  cases course with
  | undrawn fails =>
      cases fails with
      | missing absent => exact .noGenerator absent
      | failed installed returned => exact .generator installed returned
      | missized installed returned missized => exact .batchSize installed returned missized
  | unscored drawn fails =>
      have first := drawn.drawn
      cases fails with
      | missing absent => exact .noScorer first absent
      | @rejected scorer index scores between result last _ installed inside before returned rejected =>
          have calls := Truncated.scorer first installed inside before returned rejected
          rw [← Journal.calls_scoring s.state.settings.trackBest s.best] at calls
          cases drawn
          exact Journal.calls_append (_ :: _) _ ▸ calls
  | @unestimated _ _ elite _ drew before _ _ _ selects fails =>
      have batch := selects.scored
      have shown := selects.shown
      rw [Journal.calls_append]
      cases fails with
      | missing absent => exact (List.append_nil before.calls).symm ▸ .noEstimator batch absent
      | failed installed returned =>
          rw [← shown] at returned ⊢
          exact .estimator batch installed returned
  | unupdated selects estimates fails =>
      have batch := selects.scored
      have shown := selects.shown
      rw [Journal.calls_append]
      cases estimates with
      | intro installed returned =>
          cases fails with
          | failed updates changed =>
              simp only [Session.withMemory, ← shown] at returned changed ⊢
              exact .updater batch installed returned updates changed

theorem Iteration.Course.completes {event : Event P S} (course : Course strategies s (.ok event) t journal) :
    ∃ elite, Completed strategies s.state.settings s.turn elite t.turn journal.calls ∧
      event = t.turn.reports elite ∧ t.state = t.turn.shown s.state.settings (some elite) := by
  have settings := course.settings
  cases course with
  | @completed _ _ elite _ drew before _ _ params _ _ selects estimates updates =>
      refine ⟨elite, ?_, rfl, ?_⟩
      · have batch := selects.scored
        have shown := selects.shown
        have iter : s.turn.iter = drew.turn.iter := by simp [Session.turn, selects.state]
        rw [Journal.calls_append]
        cases estimates with
        | intro installed returned =>
            cases updates with
            | keep absent =>
                simp only [Session.withMemory, ← shown] at returned ⊢
                have completed := Completed.estimated batch installed returned absent
                rw [iter] at completed
                exact completed
            | apply updates changed =>
                simp only [Session.withMemory, ← shown] at returned changed ⊢
                have completed := Completed.updated batch installed returned updates changed
                rw [iter] at completed
                exact completed
      · have state := updates.state.trans (estimates.state.trans selects.state)
        simp [Turn.shown, Session.turn, Session.best, Session.adopting, state]

theorem Step.round (h : Step strategies observer s watcher ⟨none, t, watcher', journal⟩) :
    Round strategies observer s.state.settings s.turn watcher t.turn watcher' journal.calls := by
  cases h with
  | goesOn course answer decides =>
      have settings := course.settings
      obtain ⟨elite, completed, rfl, shown⟩ := course.completes
      rw [Journal.calls_append, reported_calls, List.append_assoc]
      -- The answer of the rule by number is a comparison, which is not of the form `false` by itself.
      generalize verdict : false = stop at decides
      cases decides with
      | rule installed returned =>
          subst verdict
          rw [shown] at returned ⊢
          exact .rule completed answer installed returned
      | limit absent set =>
          have below := of_decide_eq_false verdict.symm
          exact .limit completed answer absent (settings ▸ set) (Nat.lt_of_not_le below)

theorem Proceeds.rounds (h : Proceeds strategies observer n s watcher t watcher' journal)
    (valid : s.state.settings.validate = .ok ()) :
    Rounds strategies observer s.state.settings n s.turn watcher t.turn watcher' journal.calls := by
  induction h with
  | refl => exact .refl
  | next first _ ih =>
      have course := (step_eq_iff valid).1 first
      have later := ih (course.settings.symm ▸ valid)
      rw [course.settings] at later
      rw [Journal.calls_append]
      exact .next course.round later

theorem Step.lastRound {ending : Except SolveError Ending}
    (h : Step strategies observer s watcher ⟨some ending, t, watcher', journal⟩) :
    LastRound strategies observer s.state.settings s.turn watcher journal.calls := by
  cases h with
  | fails course => exact .fails course.truncated
  | stopped course answer =>
      obtain ⟨elite, completed, rfl, -⟩ := course.completes
      rw [Journal.calls_append, reported_calls, List.append_assoc]
      exact .stopped completed answer
  | undecided course answer absent unset =>
      have settings := course.settings
      obtain ⟨elite, completed, rfl, -⟩ := course.completes
      rw [reported_calls]
      refine .limit completed answer absent fun limit set => ?_
      rw [← settings, unset] at set
      cases set
  | ends course answer decides =>
      have settings := course.settings
      obtain ⟨elite, completed, rfl, shown⟩ := course.completes
      rw [Journal.calls_append, Journal.calls_append, reported_calls, List.append_assoc, List.append_assoc]
      generalize verdict : true = stop at decides
      cases decides with
      | rule installed returned =>
          subst verdict
          rw [shown] at returned ⊢
          exact .rule completed answer installed returned
      | @limit limit absent set =>
          have reached := of_decide_eq_true verdict.symm
          refine .limit completed answer absent fun limit' set' => ?_
          rw [← settings, set] at set'
          cases set'
          exact reached

def Problem.firstTurn (p : Problem P α S G σ) : Turn P α S G σ where
  iter := 0
  params := p.params
  best := p.session.best
  rng := p.session.rng
  memory := p.session.memory

/-- A run that is over has made the calls of some rounds and of a last one, or none if its settings are
invalid; a run that still goes on has made the calls of its rounds so far. -/
theorem calls_of_run (p : Problem P α S G σ) (observer : Observer P S ω) (watcher : ω) :
    (∀ {limit : Nat} {out : Outcome P α S G σ ω (Except SolveError Ending)},
      p.solveUnder observer watcher limit = some out →
      match p.settings.validate with
      | .error _ => out.journal.calls = []
      | .ok () => ∃ n turn watcher' calls last,
          Rounds p.strategies observer p.settings n p.firstTurn watcher turn watcher' calls ∧
          LastRound p.strategies observer p.settings turn watcher' last ∧
          out.journal.calls = calls ++ last) ∧
    ∀ {n : Nat} {t : Session P α S G σ} {watcher' : ω} {journal : Journal P α S},
      p.settings.validate = .ok () →
      Proceeds p.strategies observer n p.fresh watcher t watcher' journal →
      Rounds p.strategies observer p.settings n p.firstTurn watcher t.turn watcher' journal.calls := by
  constructor
  · intro limit out made
    cases valid : p.settings.validate with
    | error invalid =>
        rw [Problem.solveUnder_of_invalid valid] at made
        obtain rfl := Option.some.inj made
        rfl
    | ok =>
        obtain ⟨n, before, watcher', earlier, last, proceeds, settings, final, journal⟩ := p.last_step valid made
        have rounds := proceeds.rounds valid
        have lastRound := settings ▸ final.lastRound
        exact ⟨n, before.turn, watcher', earlier.calls, last.calls, rounds, lastRound,
          journal ▸ Journal.calls_append earlier last⟩
  · intro n t watcher' journal valid proceeds
    exact proceeds.rounds valid

def twoRounds : Problem Nat Float Float Unit Unit where
  strategies :=
    { generator := some fun _ rng memory => (.ok (Tensor.vector [1.5]), rng, memory)
      scorer := some fun _ memory => (.ok 1.5, memory)
      estimator := some fun _ shown memory => (.ok (shown.params + 1), memory) }
  session :=
    { state := { State.initial 0 with settings := { numSamples := 1, numElite := 1, maxIters := some 2 } }
      rng := ()
      memory := ()
      bestSample := none }

theorem calls_of_twoRounds :
    (∃ out, twoRounds.solveUnder .silent () 2 = some out ∧ out.journal.calls.length = 8 ∧
      ∃ n turn watcher' calls last,
        Rounds twoRounds.strategies .silent twoRounds.settings n twoRounds.firstTurn () turn watcher' calls ∧
        LastRound twoRounds.strategies .silent twoRounds.settings turn watcher' last ∧
        out.journal.calls = calls ++ last) ∧
    ∃ t journal, Proceeds twoRounds.strategies .silent 1 twoRounds.fresh () t () journal ∧
      Rounds twoRounds.strategies .silent twoRounds.settings 1 twoRounds.firstTurn () t.turn () journal.calls := by
  constructor
  · have eight : (twoRounds.solveUnder .silent () 2).map (·.journal.calls.length) = some 8 := by decide +kernel
    obtain ⟨out, made, length⟩ := Option.map_eq_some_iff.1 eight
    exact ⟨out, made, length, (calls_of_run twoRounds .silent ()).1 made⟩
  · have going : (step twoRounds.strategies .silent twoRounds.fresh ()).ending.isNone = true := by decide +kernel
    have first : step twoRounds.strategies .silent twoRounds.fresh () =
        ⟨none, (step twoRounds.strategies .silent twoRounds.fresh ()).session, (),
          (step twoRounds.strategies .silent twoRounds.fresh ()).journal⟩ := by
      rw [← Option.isNone_iff_eq_none.1 going]
    have proceeds := Proceeds.next first .refl
    exact ⟨_, _, proceeds, (calls_of_run twoRounds .silent ()).2 rfl proceeds⟩

end CrossEntropy
