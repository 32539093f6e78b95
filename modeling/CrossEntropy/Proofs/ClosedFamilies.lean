import CrossEntropy.Proofs.FloatOrder
import CrossEntropy.Proofs.IterationLimit
import CrossEntropy.Proofs.Lifetime
import CrossEntropy.Search.Stock

namespace CrossEntropy
variable {P α R G σ ω : Type} [Scalar R] [Mix R P]

theorem Smoothing.mix_of_updater {S : Type} {smoothing : Smoothing R} {estimated params : P} {s : State P S}
    {memory memory' : σ} (returned : smoothing.updater estimated s memory = (.ok params, memory')) :
    mix? smoothing.weight estimated s.params = some params := by
  rw [updater, Updater.mix] at returned
  cases mixed : mix? smoothing.weight estimated s.params with
  | none => rw [mixed] at returned; cases returned
  | some params' =>
      rw [mixed] at returned
      exact congrArg some (Except.ok.inj (Prod.mk.inj returned).1)

/-- The strategies of a family, without an updater or with one that smooths; the others are free. -/
structure Strategies.Standard (R : Type) [Scalar R] [Mix R P] (generator : Generator P α Float G σ)
    (estimator : Estimator P α Float σ) (strategies : Strategies P α Float G σ) : Prop where
  generator : strategies.generator = some generator
  estimator : strategies.estimator = some estimator
  updater : strategies.updater = none ∨ ∃ smoothing : Smoothing R, strategies.updater = some smoothing.updater

/-- Parameters of the kind give batches of samples of the shape and kind, and samples of these give
parameters of the kind, which also mix. -/
structure Closed (R : Type) [Scalar R] [Mix R P] (generator : Generator P α Float G σ)
    (estimator : Estimator P α Float σ) (kind : P → Prop) (shape : Shape) (sample : Tensor α → Prop) : Prop where
  draws : ∀ {s : State P Float} (rng : G) (memory : σ), kind s.params →
    ∃ batch rng', generator s rng memory = (.ok batch, rng', memory) ∧
      batch.shape = s.settings.numSamples :: shape ∧ ∀ row ∈ batch.rows, sample row
  fits : ∀ {s : State P Float} {elite : Tensor α} {n : Nat} (memory : σ), kind s.params →
    elite.shape = (n + 1) :: shape → (∀ row ∈ elite.rows, sample row) →
    ∃ estimated, estimator elite s memory = (.ok estimated, memory) ∧ kind estimated
  mixes : ∀ (smoothing : Smoothing R) {estimated current : P}, kind estimated → kind current →
    ∃ params, mix? smoothing.weight estimated current = some params ∧ kind params

inductive SolveError.OfScorer : SolveError → Prop
  | missing : OfScorer (.missing .score)
  | failed {index : Nat} {failure : Failure} : OfScorer (.score index failure)
  | nan {index : Nat} : OfScorer (.nanScore index)

def Scorer.Reliable (scorer : Scorer α Float σ) (memories : σ → Prop) (sample : Tensor α → Prop) : Prop :=
  ∀ x memory, sample x → memories memory →
    ∃ score memory', scorer x memory = (.ok score, memory') ∧ score.isNaN = false ∧ memories memory'

open Iteration

inductive Goes (strategies : Strategies P α Float G σ) (kind : P → Prop) (sample : Tensor α → Prop)
    (s : Session P α Float G σ) : Except SolveError (Event P Float) → Session P α Float G σ → Prop
  | unscored {batch : Tensor α} {drew e t journal} (samples : ∀ row ∈ batch.rows, sample row)
      (params : drew.state.params = s.state.params) (memory : drew.memory = s.memory)
      (fails : ScoreFails strategies drew batch e t journal) : Goes strategies kind sample s (.error e) t
  | completed {scorer} {batch : Tensor α} {scores event t} (samples : ∀ row ∈ batch.rows, sample row)
      (installed : strategies.scorer = some scorer) (all : Scores scorer s.memory batch.rows scores t.memory)
      (kept : kind t.state.params) : Goes strategies kind sample s (.ok event) t

variable {strategies : Strategies P α Float G σ} {s t u : Session P α Float G σ} {kind : P → Prop}
  {sample : Tensor α → Prop} {journal : Journal P α Float} {batch chosen : Tensor α} {scores : List Float}
  {elite : Elite Float}

omit [Scalar R] [Mix R P] in
theorem Iteration.ScoreFails.ofScorer {e : SolveError} (fails : ScoreFails strategies s batch e t journal) :
    e.OfScorer := by
  cases fails with
  | missing => exact .missing
  | rejected _ _ _ _ rejected =>
      rcases rejection_eq_some rejected with ⟨_, rfl⟩ | rfl
      · exact .failed
      · exact .nan

omit [Scalar R] [Mix R P] in
theorem Iteration.ScoreFails.params {e : SolveError} (fails : ScoreFails strategies s batch e t journal) :
    t.state.params = s.state.params := by
  cases fails <;> rfl

omit [Scalar R] [Mix R P] in
theorem Scores.memories {scorer : Scorer α Float σ} {memories : σ → Prop}
    (reliable : scorer.Reliable memories sample) {samples : List (Tensor α)} {memory last : σ}
    (h : Scores scorer memory samples scores last) (fit : ∀ x ∈ samples, sample x) (start : memories memory) :
    memories last := by
  induction h with
  | nil => exact start
  | cons returned _ _ ih =>
      obtain ⟨_, next, accepted, -, again⟩ := reliable _ _ (fit _ (.head _)) start
      obtain ⟨-, rfl⟩ := Prod.mk.inj (returned.symm.trans accepted)
      exact ih (fun x member => fit x (.tail _ member)) again

omit [Scalar R] [Mix R P] in
theorem Iteration.ScoreFails.not_reliable {scorer : Scorer α Float σ} {memories : σ → Prop}
    (installed : strategies.scorer = some scorer) (reliable : scorer.Reliable memories sample)
    (fit : ∀ row ∈ batch.rows, sample row) (start : memories s.memory) {e : SolveError} :
    ¬ScoreFails strategies s batch e t journal := by
  intro fails
  cases fails with
  | missing absent => rw [installed] at absent; cases absent
  | @rejected _ index _ between _ _ _ installed' inside before returned rejected =>
      obtain rfl := Option.some.inj (installed.symm.trans installed')
      have again := before.memories reliable (fun x member => fit x (List.mem_of_mem_take member)) start
      have row : batch.row index inside ∈ batch.rows := List.mem_ofFn.2 ⟨⟨index, inside⟩, rfl⟩
      obtain ⟨score, _, accepted, number, -⟩ := reliable _ _ (fit _ row) again
      obtain ⟨rfl, -⟩ := Prod.mk.inj (returned.symm.trans accepted)
      have none : rejection index (.ok score) = none := if_neg (Bool.eq_false_iff.1 number)
      cases none.symm.trans rejected

omit [Scalar R] [Mix R P] in
theorem Iteration.Selects.source (h : Selects strategies s batch scores elite chosen t journal) :
    ∃ drew scorer, Draws strategies (s.withScores none none) batch drew ∧ strategies.scorer = some scorer ∧
      Scores scorer drew.memory batch.rows scores t.memory := by
  cases h with
  | intro drawn installed all => exact ⟨_, _, drawn, installed, all⟩

omit [Scalar R] [Mix R P] in
theorem Iteration.Selects.rows_ne_nil (h : Selects strategies s batch scores elite chosen t journal) :
    chosen.rows ≠ [] := by
  rw [h.chosen.1]
  cases h with
  | intro drawn installed all selected picked =>
      -- the bound of the elite is the score of one of the samples, which is then in the elite
      have member := Elite.eliteScore_mem_of_select? selected
      have number : elite.eliteScore.isNaN = false := all.number _ member
      exact Elite.within_ne_nil all.length_eq.symm member ((le_iff_place number number).2 (Int.le_refl _))

namespace Closed
variable {generator : Generator P α Float G σ} {estimator : Estimator P α Float σ} {shape : Shape}

theorem narrow {kind' : P → Prop} {sample' : Tensor α → Prop}
    (closed : Closed R generator estimator kind shape sample) (wider : ∀ {params}, kind' params → kind params)
    (widerSample : ∀ {row}, sample' row → sample row)
    (draws : ∀ {s : State P Float} {rng rng' : G} {memory memory' : σ} {batch}, kind' s.params →
      generator s rng memory = (.ok batch, rng', memory') → ∀ row ∈ batch.rows, sample row → sample' row)
    (fits : ∀ {s : State P Float} {elite : Tensor α} {n : Nat} {memory memory' : σ} {estimated}, kind' s.params →
      elite.shape = (n + 1) :: shape → (∀ row ∈ elite.rows, sample' row) →
      estimator elite s memory = (.ok estimated, memory') → kind' estimated)
    (mixes : ∀ {smoothing : Smoothing R} {estimated current params : P}, kind' estimated → kind' current →
      mix? smoothing.weight estimated current = some params → kind' params) :
    Closed R generator estimator kind' shape sample' where
  draws rng memory good := by
    obtain ⟨batch, rng', drawn, shaped, samples⟩ := closed.draws rng memory (wider good)
    exact ⟨batch, rng', drawn, shaped, fun row member => draws good drawn row member (samples row member)⟩
  fits memory good shaped known := by
    obtain ⟨estimated, fitted, -⟩ :=
      closed.fits memory (wider good) shaped fun row member => widerSample (known row member)
    exact ⟨estimated, fitted, fits good shaped known fitted⟩
  mixes smoothing {_ _} fitted good := by
    obtain ⟨params, mixed, -⟩ := closed.mixes smoothing (wider fitted) (wider good)
    exact ⟨params, mixed, mixes fitted good mixed⟩

theorem drawn (closed : Closed R generator estimator kind shape sample)
    (standard : strategies.Standard R generator estimator) (good : kind s.state.params)
    (h : Draws strategies s batch t) :
    batch.shape = s.state.settings.numSamples :: shape ∧ (∀ row ∈ batch.rows, sample row) ∧
      t.memory = s.memory := by
  cases h with
  | intro installed returned =>
      obtain rfl := Option.some.inj (standard.generator.symm.trans installed)
      obtain ⟨batch', rng', drew, shaped, samples⟩ := closed.draws s.rng s.memory good
      obtain ⟨ok, rest⟩ := Prod.mk.inj (returned.symm.trans drew)
      obtain ⟨-, rfl⟩ := Prod.mk.inj rest
      obtain rfl := Except.ok.inj ok
      exact ⟨shaped, samples, rfl⟩

theorem not_drawFails (closed : Closed R generator estimator kind shape sample)
    (standard : strategies.Standard R generator estimator) (good : kind s.state.params) {e : SolveError} :
    ¬DrawFails strategies s e t journal := by
  obtain ⟨batch', rng', drew, shaped, -⟩ := closed.draws s.rng s.memory good
  intro fails
  cases fails with
  | missing absent =>
      rw [standard.generator] at absent
      cases absent
  | failed installed returned =>
      obtain rfl := Option.some.inj (standard.generator.symm.trans installed)
      cases returned.symm.trans drew
  | missized installed returned missized =>
      obtain rfl := Option.some.inj (standard.generator.symm.trans installed)
      obtain rfl := Except.ok.inj (Prod.mk.inj (returned.symm.trans drew)).1
      exact missized (Tensor.extent_zero shaped)

theorem exists_draws (closed : Closed R generator estimator kind shape sample)
    (standard : strategies.Standard R generator estimator) (good : kind s.state.params) :
    ∃ batch t, Draws strategies s batch t := by
  rcases draws_or_fails strategies s with drawn | ⟨_, _, _, fails⟩
  · exact drawn
  · exact absurd fails (closed.not_drawFails standard good)

theorem elite_fits (closed : Closed R generator estimator kind shape sample)
    (standard : strategies.Standard R generator estimator) (good : kind s.state.params)
    (h : Selects strategies s batch scores elite chosen t journal) :
    (∃ estimated, estimator chosen t.state t.memory = (.ok estimated, t.memory) ∧ kind estimated) ∧
      kind t.state.params := by
  obtain ⟨rows, shaped⟩ := h.chosen
  have some := h.rows_ne_nil
  have same : t.state.params = s.state.params := by rw [h.state]
  obtain ⟨drew, _, drawn, -⟩ := h.source
  obtain ⟨layout, samples, -⟩ := closed.drawn standard (s := s.withScores none none) good drawn
  have admitted : ∀ row ∈ chosen.rows, sample row := by
    intro row member
    rw [rows] at member
    exact samples row (Elite.mem_of_mem_within member)
  obtain ⟨n, count⟩ : ∃ n, chosen.extent 0 = n + 1 := by
    rw [← chosen.length_rows]
    exact Nat.exists_eq_succ_of_ne_zero fun none => some (List.eq_nil_of_length_eq_zero none)
  rw [count, layout] at shaped
  have good : kind t.state.params := same ▸ good
  exact ⟨closed.fits t.memory good shaped admitted, good⟩

theorem not_estimateFails (closed : Closed R generator estimator kind shape sample)
    (standard : strategies.Standard R generator estimator) (good : kind s.state.params)
    (selects : Selects strategies s batch scores elite chosen t journal) {e u last} :
    ¬EstimateFails strategies t chosen e u last := by
  obtain ⟨⟨estimated, returned, -⟩, -⟩ := closed.elite_fits standard good selects
  intro fails
  cases fails with
  | missing absent => rw [standard.estimator] at absent; cases absent
  | failed installed failed =>
      obtain rfl := Option.some.inj (standard.estimator.symm.trans installed)
      cases failed.symm.trans returned

theorem estimates_fits (closed : Closed R generator estimator kind shape sample)
    (standard : strategies.Standard R generator estimator) (good : kind s.state.params)
    (selects : Selects strategies s batch scores elite chosen t journal) {estimated u}
    (estimates : Estimates strategies t chosen estimated u) :
    kind estimated ∧ kind u.state.params ∧ u.memory = t.memory := by
  obtain ⟨⟨fitted, returned, fits⟩, good⟩ := closed.elite_fits standard good selects
  cases estimates with
  | intro installed answered =>
      obtain rfl := Option.some.inj (standard.estimator.symm.trans installed)
      obtain ⟨ok, rfl⟩ := Prod.mk.inj (answered.symm.trans returned)
      obtain rfl := Except.ok.inj ok
      exact ⟨fits, good, rfl⟩

theorem updater_mixes (closed : Closed R generator estimator kind shape sample)
    (standard : strategies.Standard R generator estimator) {estimated : P} (good : kind s.state.params)
    (fitted : kind estimated) :
    (∀ {e t journal}, ¬UpdateFails strategies s estimated e t journal) ∧
      ∀ {params t journal}, Updates strategies s estimated params t journal → kind params ∧ t.memory = s.memory := by
  rcases standard.updater with absent | ⟨smoothing, smooths⟩
  · refine ⟨fun fails => ?_, fun updates => ?_⟩
    · cases fails with
      | failed installed => rw [absent] at installed; cases installed
    · cases updates with
      | keep => exact ⟨fitted, rfl⟩
      | apply installed => rw [absent] at installed; cases installed
  · obtain ⟨params, mixed, kept⟩ := closed.mixes smoothing fitted good
    have applied : smoothing.updater estimated s.state s.memory = (.ok params, s.memory) := by
      simp only [Smoothing.updater, Updater.mix, mixed]
    refine ⟨fun fails => ?_, fun updates => ?_⟩
    · cases fails with
      | failed installed returned =>
          obtain rfl := Option.some.inj (smooths.symm.trans installed)
          cases returned.symm.trans applied
    · cases updates with
      | keep absent => rw [smooths] at absent; cases absent
      | apply installed returned =>
          obtain rfl := Option.some.inj (smooths.symm.trans installed)
          obtain ⟨ok, rfl⟩ := Prod.mk.inj (returned.symm.trans applied)
          exact ⟨Except.ok.inj ok ▸ kept, rfl⟩

theorem goes (closed : Closed R generator estimator kind shape sample)
    (standard : strategies.Standard R generator estimator) (good : kind s.state.params)
    {result : Except SolveError (Event P Float)} (course : Course strategies s result t journal) :
    Goes strategies kind sample s result t := by
  have unscored : kind (s.withScores none none).state.params := good
  cases course with
  | undrawn fails => exact absurd fails (closed.not_drawFails standard unscored)
  | unscored drawn fails =>
      obtain ⟨-, samples, memory⟩ := closed.drawn standard unscored drawn
      exact .unscored samples (by rw [drawn.state]; rfl) memory fails
  | unestimated selects fails => exact absurd fails (closed.not_estimateFails standard good selects)
  | unupdated selects estimates fails =>
      obtain ⟨fitted, good, -⟩ := closed.estimates_fits standard good selects estimates
      exact absurd fails (closed.updater_mixes standard good fitted).1
  | completed selects estimates updates =>
      obtain ⟨fitted, good', estimating⟩ := closed.estimates_fits standard good selects estimates
      obtain ⟨kept, updating⟩ := (closed.updater_mixes standard good' fitted).2 updates
      obtain ⟨drew, scorer, drawn, scores, all⟩ := selects.source
      obtain ⟨-, samples, drawing⟩ := closed.drawn standard unscored drawn
      -- none of the three strategies touches the memory, so the scorer finds and leaves it as it is around them
      have all : Scores scorer s.memory _ _ _ := drawing ▸ all
      exact .completed samples scores ((updating.trans estimating).symm ▸ all) kept

theorem ofScorer (closed : Closed R generator estimator kind shape sample)
    (standard : strategies.Standard R generator estimator) (good : kind s.state.params) {e : SolveError}
    (course : Course strategies s (.error e) t journal) : e.OfScorer := by
  cases closed.goes standard good course with
  | unscored _ _ _ fails => exact fails.ofScorer

theorem keeps (closed : Closed R generator estimator kind shape sample) :
    Moment.Keeps (Strategies.Standard R generator estimator) kind := by
  intro strategies s result t journal standard good course
  cases closed.goes standard good course with
  | unscored _ params _ fails => exact (fails.params.trans params).symm ▸ good
  | completed _ _ _ kept => exact kept

end Closed

theorem Goes.ok_of_reliable {scorer : Scorer α Float σ} {memories : σ → Prop}
    {result : Except SolveError (Event P Float)} (goes : Goes strategies kind sample s result t)
    (installed : strategies.scorer = some scorer) (reliable : scorer.Reliable memories sample)
    (start : memories s.memory) : (∃ event, result = .ok event) ∧ memories t.memory := by
  cases goes with
  | unscored samples _ memory fails =>
      exact absurd fails (ScoreFails.not_reliable installed reliable samples (memory.symm ▸ start))
  | completed samples installed' all =>
      obtain rfl := Option.some.inj (installed.symm.trans installed')
      exact ⟨⟨_, rfl⟩, all.memories reliable samples start⟩

/-- All runs in the life of a problem fail only by its scorer or for want of a number of iterations, and
they keep its parameters of a kind. -/
structure Problem.FailsOnlyByScorer (p : Problem P α Float G σ) (allowed : Strategies P α Float G σ → Prop)
    (kind : P → Prop) (sample : Tensor α → Prop) : Prop where
  kept : ∀ {m : Moment P α Float G σ}, Moment.Leads allowed ⟨p, .idle⟩ m → kind m.problem.params
  iteration : ∀ {q : Problem P α Float G σ} {ω : Type} {observer : Observer P Float ω} {watcher : ω}
    {result : Except SolveError (Event P Float)} {t : Session P α Float G σ} {journal : Journal P α Float},
    Moment.Leads allowed ⟨p, .idle⟩ ⟨q, .running observer watcher⟩ →
    iterate q.strategies q.session = (result, t, journal) →
    kind t.state.params ∧ ∀ e, result = .error e → e.OfScorer
  run : ∀ {q : Problem P α Float G σ} {ω : Type} {observer : Observer P Float ω} {watcher : ω} {limit : Nat}
    {out : Outcome P α Float G σ ω (Except SolveError Ending)},
    Moment.Leads allowed ⟨p, .idle⟩ ⟨q, .idle⟩ → q.settings.validate = .ok () →
    q.solveUnder observer watcher limit = some out →
    ∀ e, out.ending = .error e → e.OfScorer ∨ e = .missingMaxIters
  completes : ∀ {q : Problem P α Float G σ} {m : Nat} {scorer : Scorer α Float σ} {memories : σ → Prop},
    Moment.Leads allowed ⟨p, .idle⟩ ⟨q, .idle⟩ → q.settings.validate = .ok () →
    q.strategies.stopRule = none → q.settings.maxIters = some m →
    q.strategies.scorer = some scorer → scorer.Reliable memories sample → memories q.session.memory →
    ∃ out, (∀ limit, max m 1 ≤ limit → q.solve limit = some out) ∧ out.ending = .ok .stopRule ∧
      out.session.state.numIters = max m 1

namespace Closed
variable {generator : Generator P α Float G σ} {estimator : Estimator P α Float σ} {shape : Shape}
  {scorer : Scorer α Float σ} {memories : σ → Prop} {observer : Observer P Float ω} {watcher watcher' : ω} {n : Nat}

theorem course_reliable (closed : Closed R generator estimator kind shape sample)
    (standard : strategies.Standard R generator estimator) (installed : strategies.scorer = some scorer)
    (reliable : scorer.Reliable memories sample) (good : kind s.state.params) (start : memories s.memory)
    {result : Except SolveError (Event P Float)} (course : Course strategies s result t journal) :
    (∃ event, result = .ok event) ∧ kind t.state.params ∧ memories t.memory := by
  obtain ⟨ok, again⟩ := (closed.goes standard good course).ok_of_reliable installed reliable start
  exact ⟨ok, closed.keeps standard good course, again⟩

theorem proceeds_reliable (closed : Closed R generator estimator kind shape sample)
    (standard : strategies.Standard R generator estimator) (installed : strategies.scorer = some scorer)
    (reliable : scorer.Reliable memories sample) (absent : strategies.stopRule = none)
    (valid : s.state.settings.validate = .ok ()) (good : kind s.state.params) (start : memories s.memory)
    (h : Proceeds strategies observer n s watcher t watcher' journal) :
    kind t.state.params ∧ memories t.memory := by
  induction h with
  | refl => exact ⟨good, start⟩
  | next first _ ih =>
      have made := (step_eq_iff valid).1 first
      have settled := (congrArg Settings.validate made.settings).trans valid
      cases made with
      | goesOn course _ decides =>
          obtain ⟨-, kept, again⟩ := closed.course_reliable standard installed reliable good start course
          generalize false = stop at decides
          cases decides with
          | rule installed' => rw [absent] at installed'; cases installed'
          | limit => exact ih settled kept again

theorem completes (closed : Closed R generator estimator kind shape sample) {p : Problem P α Float G σ} {m : Nat}
    (standard : p.strategies.Standard R generator estimator) (good : kind p.params)
    (valid : p.settings.validate = .ok ()) (absent : p.strategies.stopRule = none)
    (set : p.settings.maxIters = some m) (installed : p.strategies.scorer = some scorer)
    (reliable : scorer.Reliable memories sample) (start : memories p.session.memory) :
    ∃ out, (∀ limit, max m 1 ≤ limit → p.solve limit = some out) ∧ out.ending = .ok .stopRule ∧
      out.session.state.numIters = max m 1 := by
  obtain ⟨out, made⟩ := Problem.exists_outcome absent set .silent ()
  have first := made (max m 1) (Nat.le_refl _)
  obtain ⟨n, before, _, earlier, last, proceeds, settings, final, -⟩ := p.last_step valid first
  obtain ⟨kept, again⟩ :=
    closed.proceeds_reliable (s := p.fresh) standard installed reliable absent valid good start proceeds
  have ended : out.ending = .ok .stopRule := by
    generalize ending : out.ending = result at final
    cases final with
    | fails course =>
        obtain ⟨⟨event, ok⟩, -⟩ := closed.course_reliable standard installed reliable kept again course
        cases ok
    | stopped _ answer => cases answer
    | undecided course _ _ unset =>
        rw [course.settings, settings, set] at unset
        cases unset
    | ends => rfl
  exact ⟨out, made, ended, (Problem.reached_of_run absent set first ended).1⟩

theorem failsOnlyByScorer (closed : Closed R generator estimator kind shape sample) {p : Problem P α Float G σ}
    (standard : p.strategies.Standard R generator estimator) (good : kind p.params) :
    p.FailsOnlyByScorer (Strategies.Standard R generator estimator) kind sample := by
  have sound {m : Moment P α Float G σ} (leads : Moment.Leads _ ⟨p, .idle⟩ m) :=
    (Moment.Sound.idle standard good).leads closed.keeps leads
  constructor
  · intro m leads
    exact (sound leads).params
  · intro q ω observer watcher result t journal leads made
    have here := sound leads
    have course := (iterate_eq_iff (here.valid (by simp))).1 made
    refine ⟨closed.keeps here.strategies here.params course, fun e failed => ?_⟩
    subst failed
    exact closed.ofScorer here.strategies here.params course
  · intro q ω observer watcher limit out leads valid made e failed
    obtain ⟨n, before, watcher', earlier, last, proceeds, -, final, -⟩ := q.last_step valid made
    have going := (leads.tail (.starts valid)).trans (Moment.leads_of_proceeds proceeds)
    have here := sound going
    rw [failed] at final
    cases final with
    | fails course => exact .inl (closed.ofScorer here.strategies here.params course)
    | undecided => exact .inr rfl
  · intro q m scorer memories leads valid absent set installed reliable start
    have here := sound leads
    exact closed.completes here.strategies here.params valid absent set installed reliable start

end Closed
end CrossEntropy
