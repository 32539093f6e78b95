import CrossEntropy.Proofs.Session
import CrossEntropy.Proofs.Stage
import CrossEntropy.Search.Iteration

namespace CrossEntropy.Iteration
variable {P α S G σ : Type} {strategies : Strategies P α S G σ} {s t : Session P α S G σ}

/-- Drawing a batch of the right size; the second session is the one it leaves. -/
inductive Draws (strategies : Strategies P α S G σ) (s : Session P α S G σ) :
    Tensor α → Session P α S G σ → Prop
  | intro {generator batch rng memory} (installed : strategies.generator = some generator)
      (returned : generator s.state s.rng s.memory = (.ok batch, rng, memory))
      (sized : batch.extent 0 = s.state.settings.numSamples) : Draws strategies s batch { s with rng, memory }

inductive DrawFails (strategies : Strategies P α S G σ) (s : Session P α S G σ) :
    SolveError → Session P α S G σ → Journal P α S → Prop
  | missing (absent : strategies.generator = none) : DrawFails strategies s (.missing .generate) s []
  | failed {generator failure rng memory} (installed : strategies.generator = some generator)
      (returned : generator s.state s.rng s.memory = (.error failure, rng, memory)) :
      DrawFails strategies s (.generate failure) { s with rng, memory } [.generate s.state]
  | missized {generator batch rng memory} (installed : strategies.generator = some generator)
      (returned : generator s.state s.rng s.memory = (.ok batch, rng, memory))
      (missized : batch.extent 0 ≠ s.state.settings.numSamples) :
      DrawFails strategies s (.batchSize s.state.settings.numSamples (batch.extent 0)) { s with rng, memory }
        [.generate s.state]

theorem Draws.state {batch : Tensor α} (h : Draws strategies s batch t) : t.state = s.state := by
  cases h
  rfl

theorem Draws.best {batch : Tensor α} (h : Draws strategies s batch t) : t.best = s.best := by
  cases h
  rfl

theorem DrawFails.state {e : SolveError} {journal : Journal P α S} (h : DrawFails strategies s e t journal) :
    t.state = s.state := by
  cases h <;> rfl

theorem DrawFails.best {e : SolveError} {journal : Journal P α S} (h : DrawFails strategies s e t journal) :
    t.best = s.best := by
  cases h <;> rfl

theorem Draws.sized {batch : Tensor α} (h : Draws strategies s batch t) :
    batch.extent 0 = s.state.settings.numSamples := by
  cases h
  assumption

theorem draw_of_draws {batch : Tensor α} (h : Draws strategies s batch t) :
    draw strategies s = (.ok batch, t, [.generate s.state]) := by
  cases h with
  | intro installed returned sized =>
      simp only [draw, installed, Stage.current_bind_apply, returned]
      apply Stage.write_bind_of
      simp only [Stage.change_bind_apply, Stage.ofExcept_ok, Stage.pure_bind_apply, if_pos sized]
      rfl

theorem draw_of_drawFails {e : SolveError} {journal : Journal P α S} (h : DrawFails strategies s e t journal) :
    draw strategies s = (.error e, t, journal) := by
  cases h with
  | missing absent => simp only [draw, absent, Stage.fail_apply]
  | failed installed returned =>
      simp only [draw, installed, Stage.current_bind_apply, returned]
      exact Stage.write_bind_of rfl
  | missized installed returned missized =>
      simp only [draw, installed, Stage.current_bind_apply, returned]
      apply Stage.write_bind_of
      simp only [Stage.change_bind_apply, Stage.ofExcept_ok, Stage.pure_bind_apply, if_neg missized]
      rfl

theorem draws_or_fails (strategies : Strategies P α S G σ) (s : Session P α S G σ) :
    (∃ batch t, Draws strategies s batch t) ∨ ∃ e t journal, DrawFails strategies s e t journal := by
  cases installed : strategies.generator with
  | none => exact .inr ⟨_, _, _, .missing installed⟩
  | some generator =>
      obtain ⟨result, rng, memory, returned⟩ :
          ∃ result rng memory, generator s.state s.rng s.memory = (result, rng, memory) := ⟨_, _, _, rfl⟩
      cases result with
      | error failure => exact .inr ⟨_, _, _, .failed installed returned⟩
      | ok batch =>
          by_cases sized : batch.extent 0 = s.state.settings.numSamples
          · exact .inl ⟨_, _, .intro installed returned sized⟩
          · exact .inr ⟨_, _, _, .missized installed returned sized⟩

theorem draws_of_draw {batch : Tensor α} {journal : Journal P α S}
    (drawn : draw strategies s = (.ok batch, t, journal)) : Draws strategies s batch t := by
  rcases draws_or_fails strategies s with ⟨batch', t', draws⟩ | ⟨e, t', journal', fails⟩
  · obtain ⟨ok, same⟩ := Prod.mk.inj (drawn.symm.trans (draw_of_draws draws))
    obtain rfl := Except.ok.inj ok
    obtain ⟨rfl, -⟩ := Prod.mk.inj same
    exact draws
  · cases drawn.symm.trans (draw_of_drawFails fails)

inductive EstimateFails (strategies : Strategies P α S G σ) (s : Session P α S G σ) (chosen : Tensor α) :
    SolveError → Session P α S G σ → Journal P α S → Prop
  | missing (absent : strategies.estimator = none) : EstimateFails strategies s chosen (.missing .estimate) s []
  | failed {estimator failure memory} (installed : strategies.estimator = some estimator)
      (returned : estimator chosen s.state s.memory = (.error failure, memory)) :
      EstimateFails strategies s chosen (.estimate failure) (s.withMemory memory) [.estimate chosen s.state]

inductive Estimates (strategies : Strategies P α S G σ) (s : Session P α S G σ) (chosen : Tensor α) :
    P → Session P α S G σ → Prop
  | intro {estimator estimated memory} (installed : strategies.estimator = some estimator)
      (returned : estimator chosen s.state s.memory = (.ok estimated, memory)) :
      Estimates strategies s chosen estimated (s.withMemory memory)

inductive UpdateFails (strategies : Strategies P α S G σ) (s : Session P α S G σ) (estimated : P) :
    SolveError → Session P α S G σ → Journal P α S → Prop
  | failed {updater failure memory} (installed : strategies.updater = some updater)
      (returned : updater estimated s.state s.memory = (.error failure, memory)) :
      UpdateFails strategies s estimated (.update failure) (s.withMemory memory) [.update estimated s.state]

inductive Updates (strategies : Strategies P α S G σ) (s : Session P α S G σ) (estimated : P) :
    P → Session P α S G σ → Journal P α S → Prop
  | keep (absent : strategies.updater = none) : Updates strategies s estimated estimated s []
  | apply {updater params memory} (installed : strategies.updater = some updater)
      (returned : updater estimated s.state s.memory = (.ok params, memory)) :
      Updates strategies s estimated params (s.withMemory memory) [.update estimated s.state]

theorem EstimateFails.state {chosen : Tensor α} {e : SolveError} {journal : Journal P α S}
    (h : EstimateFails strategies s chosen e t journal) : t.state = s.state := by
  cases h <;> rfl

theorem EstimateFails.best {chosen : Tensor α} {e : SolveError} {journal : Journal P α S}
    (h : EstimateFails strategies s chosen e t journal) : t.best = s.best := by
  cases h <;> rfl

theorem Estimates.state {chosen : Tensor α} {estimated : P} (h : Estimates strategies s chosen estimated t) :
    t.state = s.state := by
  cases h
  rfl

theorem Estimates.best {chosen : Tensor α} {estimated : P} (h : Estimates strategies s chosen estimated t) :
    t.best = s.best := by
  cases h
  rfl

theorem UpdateFails.state {estimated : P} {e : SolveError} {journal : Journal P α S}
    (h : UpdateFails strategies s estimated e t journal) : t.state = s.state := by
  cases h
  rfl

theorem UpdateFails.best {estimated : P} {e : SolveError} {journal : Journal P α S}
    (h : UpdateFails strategies s estimated e t journal) : t.best = s.best := by
  cases h
  rfl

theorem Updates.state {estimated params : P} {journal : Journal P α S}
    (h : Updates strategies s estimated params t journal) : t.state = s.state := by
  cases h <;> rfl

theorem Updates.best {estimated params : P} {journal : Journal P α S}
    (h : Updates strategies s estimated params t journal) : t.best = s.best := by
  cases h <;> rfl

theorem estimate_of_estimates {chosen : Tensor α} {estimated : P}
    (h : Estimates strategies s chosen estimated t) :
    estimate strategies chosen s = (.ok estimated, t, [.estimate chosen s.state]) := by
  cases h with
  | intro installed returned =>
      simp only [estimate, installed, Stage.current_bind_apply, returned]
      exact Stage.write_bind_of rfl

theorem estimate_of_estimateFails {chosen : Tensor α} {e : SolveError} {journal : Journal P α S}
    (h : EstimateFails strategies s chosen e t journal) :
    estimate strategies chosen s = (.error e, t, journal) := by
  cases h with
  | missing absent => simp only [estimate, absent, Stage.fail_apply]
  | failed installed returned =>
      simp only [estimate, installed, Stage.current_bind_apply, returned]
      exact Stage.write_bind_of rfl

theorem estimates_or_fails (strategies : Strategies P α S G σ) (s : Session P α S G σ) (chosen : Tensor α) :
    (∃ estimated t, Estimates strategies s chosen estimated t) ∨
      ∃ e t journal, EstimateFails strategies s chosen e t journal := by
  cases installed : strategies.estimator with
  | none => exact .inr ⟨_, _, _, .missing installed⟩
  | some estimator =>
      obtain ⟨result, memory, returned⟩ :
          ∃ result memory, estimator chosen s.state s.memory = (result, memory) := ⟨_, _, rfl⟩
      cases result with
      | error failure => exact .inr ⟨_, _, _, .failed installed returned⟩
      | ok estimated => exact .inl ⟨_, _, .intro installed returned⟩

theorem update_of_updates {estimated params : P} {journal : Journal P α S}
    (h : Updates strategies s estimated params t journal) :
    update strategies estimated s = (.ok params, t, journal) := by
  cases h with
  | keep absent => simp only [update, absent, Stage.pure_apply]
  | apply installed returned =>
      simp only [update, installed, Stage.current_bind_apply, returned]
      exact Stage.write_bind_of rfl

theorem update_of_updateFails {estimated : P} {e : SolveError} {journal : Journal P α S}
    (h : UpdateFails strategies s estimated e t journal) :
    update strategies estimated s = (.error e, t, journal) := by
  cases h with
  | failed installed returned =>
      simp only [update, installed, Stage.current_bind_apply, returned]
      exact Stage.write_bind_of rfl

theorem updates_or_fails (strategies : Strategies P α S G σ) (s : Session P α S G σ) (estimated : P) :
    (∃ params t journal, Updates strategies s estimated params t journal) ∨
      ∃ e t journal, UpdateFails strategies s estimated e t journal := by
  cases installed : strategies.updater with
  | none => exact .inl ⟨_, _, _, .keep installed⟩
  | some updater =>
      obtain ⟨result, memory, returned⟩ :
          ∃ result memory, updater estimated s.state s.memory = (result, memory) := ⟨_, _, rfl⟩
      cases result with
      | error failure => exact .inr ⟨_, _, _, .failed installed returned⟩
      | ok params => exact .inl ⟨_, _, _, .apply installed returned⟩

def event (s : Session P α S G σ) (elite : Elite S) : Event P S where
  iter := s.state.numIters
  minScore := elite.minScore
  eliteScore := elite.eliteScore
  eliteCount := elite.indices.length
  bestScore := s.state.bestScore
  params := s.state.params

theorem adopt_apply (params : P) (elite : Elite S) :
    adopt params elite s = (.ok (event (s.adopting params) elite), s.adopting params,
      [.log (.iteration (s.state.numIters + 1) elite.minScore elite.eliteScore elite.indices.length)]) :=
  rfl

def conclude (strategies : Strategies P α S G σ) (elite : Elite S) (chosen : Tensor α) :
    Stage P α S G σ (Event P S) := do
  let estimated ← estimate strategies chosen
  let params ← update strategies estimated
  adopt params elite

end CrossEntropy.Iteration
