import CrossEntropy.Proofs.Calls
import CrossEntropy.Proofs.Elite
import CrossEntropy.Proofs.Scoring

namespace CrossEntropy
variable {P α S G σ : Type} [Score S] {strategies : Strategies P α S G σ} {s t u : Session P α S G σ}

theorem Settings.validate_eq_ok {c : Settings} (valid : c.validate = .ok ()) :
    0 < c.numElite ∧ c.numElite ≤ c.numSamples := by
  unfold Settings.validate at valid
  split at valid
  · cases valid
  · split at valid
    · cases valid
    · omega

structure Event.Describes {P S : Type} (event : Event P S) (s : State P S) : Prop where
  iter : event.iter = s.numIters
  minScore : s.minScore = some event.minScore
  eliteScore : s.eliteScore = some event.eliteScore
  bestScore : event.bestScore = s.bestScore
  params : event.params = s.params

namespace Iteration

/-- An iteration up to the selection of the elite, whose samples are the last array. -/
inductive Selects (strategies : Strategies P α S G σ) (s : Session P α S G σ) :
    Tensor α → List S → Elite S → Tensor α → Session P α S G σ → Journal P α S → Prop
  | intro {batch t scorer scores last elite chosen} (drawn : Draws strategies (s.withScores none none) batch t)
      (installed : strategies.scorer = some scorer) (all : Scores scorer t.memory batch.rows scores last)
      (selected : Elite.select? scores s.state.settings.numElite = some elite)
      (picked : batch.selectRows? elite.indices = some chosen) :
      Selects strategies s batch scores elite chosen
        ((scored t (batch.rows.zip scores) last).withScores (some elite.minScore) (some elite.eliteScore))
        (.generate (s.withScores none none).state :: scoring t 0 (batch.rows.zip scores))

/-- An iteration from a session: what it returns, the session it leaves and what it writes. -/
inductive Course (strategies : Strategies P α S G σ) (s : Session P α S G σ) :
    Except SolveError (Event P S) → Session P α S G σ → Journal P α S → Prop
  | undrawn {e t journal} (fails : DrawFails strategies (s.withScores none none) e t journal) :
      Course strategies s (.error e) t journal
  | unscored {batch t e u journal} (drawn : Draws strategies (s.withScores none none) batch t)
      (fails : ScoreFails strategies t batch e u journal) :
      Course strategies s (.error e) u (.generate (s.withScores none none).state :: journal)
  | unestimated {batch scores elite chosen t journal e u last}
      (selects : Selects strategies s batch scores elite chosen t journal)
      (fails : EstimateFails strategies t chosen e u last) : Course strategies s (.error e) u (journal ++ last)
  | unupdated {batch scores elite chosen t journal estimated u e v last}
      (selects : Selects strategies s batch scores elite chosen t journal)
      (estimates : Estimates strategies t chosen estimated u)
      (fails : UpdateFails strategies u estimated e v last) :
      Course strategies s (.error e) v (journal ++ .estimate chosen t.state :: last)
  | completed {batch scores elite chosen t journal estimated u params v last}
      (selects : Selects strategies s batch scores elite chosen t journal)
      (estimates : Estimates strategies t chosen estimated u)
      (updates : Updates strategies u estimated params v last) :
      Course strategies s (.ok (event (v.adopting params) elite)) (v.adopting params)
        (journal ++ .estimate chosen t.state :: (last ++ [.log (.iteration (v.state.numIters + 1)
          elite.minScore elite.eliteScore elite.indices.length)]))

theorem Selects.state {batch chosen : Tensor α} {scores : List S} {elite : Elite S} {journal : Journal P α S}
    (h : Selects strategies s batch scores elite chosen t journal) :
    t.state = { s.state with
      minScore := some elite.minScore
      eliteScore := some elite.eliteScore
      bestScore := (s.best.seeAll s.state.settings.trackBest (batch.rows.zip scores)).score } := by
  cases h with
  | intro drawn =>
      simp only [Session.withScores, scored, Session.withBest, Session.withMemory, drawn.state, drawn.best]
      rfl

theorem Selects.best {batch chosen : Tensor α} {scores : List S} {elite : Elite S} {journal : Journal P α S}
    (h : Selects strategies s batch scores elite chosen t journal) :
    t.best = s.best.seeAll s.state.settings.trackBest (batch.rows.zip scores) := by
  cases h with
  | intro drawn =>
      change Best.seeAll _ _ _ = _
      rw [drawn.state, drawn.best]
      rfl

theorem Selects.selected {batch chosen : Tensor α} {scores : List S} {elite : Elite S} {journal : Journal P α S}
    (h : Selects strategies s batch scores elite chosen t journal) :
    Elite.select? scores s.state.settings.numElite = some elite := by
  cases h
  assumption

theorem Selects.length_eq {batch chosen : Tensor α} {scores : List S} {elite : Elite S} {journal : Journal P α S}
    (h : Selects strategies s batch scores elite chosen t journal) : scores.length = batch.rows.length := by
  cases h with
  | intro drawn installed all => exact all.length_eq

theorem Selects.count {batch chosen : Tensor α} {scores : List S} {elite : Elite S} {journal : Journal P α S}
    (h : Selects strategies s batch scores elite chosen t journal) : scores.length = s.state.settings.numSamples := by
  cases h with
  | intro drawn installed all => exact all.length_eq.trans (batch.length_rows.trans drawn.sized)

theorem Selects.number {batch chosen : Tensor α} {scores : List S} {elite : Elite S} {journal : Journal P α S}
    (h : Selects strategies s batch scores elite chosen t journal) : ∀ score ∈ scores, Score.isNaN score = false := by
  cases h with
  | intro drawn installed all => exact all.number

theorem Selects.chosen {batch chosen : Tensor α} {scores : List S} {elite : Elite S} {journal : Journal P α S}
    (h : Selects strategies s batch scores elite chosen t journal) :
    chosen.rows = Elite.within elite.eliteScore batch.rows scores ∧
      chosen.shape = chosen.extent 0 :: batch.shape.tail := by
  cases h with
  | intro drawn installed all selected picked =>
      have count : scores.length = batch.extent 0 := all.length_eq.trans batch.length_rows
      obtain ⟨chosen', same, rows, shape⟩ := Elite.selectRows?_admitted elite.eliteScore count
      rw [← Elite.indices_of_select? selected, picked] at same
      obtain rfl : chosen = chosen' := Option.some.inj same
      have extent : chosen.extent 0 = (Elite.within elite.eliteScore batch.rows scores).length := by
        rw [Tensor.extent, shape]
        rfl
      exact ⟨rows, extent ▸ shape⟩

theorem Course.settings {result : Except SolveError (Event P S)} {journal : Journal P α S}
    (h : Course strategies s result t journal) : t.state.settings = s.state.settings := by
  cases h with
  | undrawn fails => rw [fails.state]; rfl
  | unscored drawn fails => rw [fails.settings, drawn.state]; rfl
  | unestimated selects fails => rw [fails.state, selects.state]
  | unupdated selects estimates fails => rw [fails.state, estimates.state, selects.state]
  | completed selects estimates updates =>
      have state := updates.state.trans (estimates.state.trans selects.state)
      simp [Session.adopting, state]

theorem Course.uncounted {e : SolveError} {journal : Journal P α S}
    (h : Course strategies s (.error e) t journal) : t.state.numIters = s.state.numIters := by
  cases h with
  | undrawn fails => rw [fails.state]; rfl
  | unscored drawn fails => rw [fails.numIters, drawn.state]; rfl
  | unestimated selects fails => rw [fails.state, selects.state]
  | unupdated selects estimates fails => rw [fails.state, estimates.state, selects.state]

theorem Course.params_of_error {e : SolveError} {journal : Journal P α S}
    (h : Course strategies s (.error e) t journal) : t.state.params = s.state.params := by
  cases h with
  | undrawn fails => rw [fails.state]; rfl
  | unscored drawn fails =>
      have params := congrArg State.params drawn.state
      cases fails with
      | missing | rejected => exact params
  | unestimated selects fails => rw [fails.state, selects.state]
  | unupdated selects estimates fails => rw [fails.state, estimates.state, selects.state]

theorem Course.event_params {event : Event P S} {journal : Journal P α S}
    (h : Course strategies s (.ok event) t journal) : event.params = t.state.params := by
  cases h
  rfl

theorem Course.reports {event : Event P S} {journal : Journal P α S}
    (h : Course strategies s (.ok event) t journal) :
    t.state.numIters = s.state.numIters + 1 ∧ t.state.minScore = some event.minScore ∧
      t.state.eliteScore = some event.eliteScore := by
  cases h with
  | completed selects estimates updates =>
      have state := updates.state.trans (estimates.state.trans selects.state)
      simp [Session.adopting, event, state]

theorem Course.describes {event : Event P S} {journal : Journal P α S}
    (h : Course strategies s (.ok event) t journal) : event.Describes t.state := by
  obtain ⟨-, low, bound⟩ := h.reports
  cases h with
  | completed => exact ⟨rfl, low, bound, rfl, rfl⟩

theorem Selects.events {batch chosen : Tensor α} {scores : List S} {elite : Elite S} {journal : Journal P α S}
    (h : Selects strategies s batch scores elite chosen t journal) : journal.events = [] := by
  cases h
  exact Journal.events_scoring ..

theorem Course.events {result : Except SolveError (Event P S)} {journal : Journal P α S}
    (h : Course strategies s result t journal) : journal.events = [] := by
  cases h with
  | undrawn fails => cases fails <;> rfl
  | unscored drawn fails =>
      cases fails with
      | missing => rfl
      | rejected =>
          change Journal.events (_ ++ _) = []
          rw [Journal.events_append, scoring, Journal.events_scoring]
          rfl
  | unestimated selects fails =>
      rw [Journal.events_append, selects.events]
      cases fails <;> rfl
  | unupdated selects estimates fails =>
      rw [Journal.events_append, selects.events]
      cases fails
      rfl
  | completed selects estimates updates =>
      rw [Journal.events_append, selects.events]
      cases updates <;> rfl

theorem select_of_select? {scores : List S} {elite : Elite S}
    (selected : Elite.select? scores s.state.settings.numElite = some elite) :
    select scores s = (.ok elite, s.withScores (some elite.minScore) (some elite.eliteScore), []) := by
  simp only [select, Stage.current_bind_apply, selected]
  rfl

theorem iterate_of_selects {batch chosen : Tensor α} {scores : List S} {elite : Elite S}
    {result : Except SolveError (Event P S)} {journal last : Journal P α S}
    (h : Selects strategies s batch scores elite chosen t journal)
    (rest : conclude strategies elite chosen t = (result, u, last)) :
    iterate strategies s = (result, u, journal ++ last) := by
  cases h with
  | intro drawn installed all selected picked =>
      have settings := congrArg State.settings drawn.state
      change _ = s.state.settings at settings
      rw [← settings] at selected
      rw [iterate, clearScores, Stage.change_bind_apply]
      refine Stage.bind_of_writes (draw_of_draws drawn) ?_
      refine Stage.bind_of_ok (scoreBatch_of_scores installed all) ?_
      refine Stage.bind_of_silent (select_of_select? selected) ?_
      simp only [picked]
      exact rest

theorem iterate_of_course {result : Except SolveError (Event P S)} {journal : Journal P α S}
    (h : Course strategies s result t journal) : iterate strategies s = (result, t, journal) := by
  cases h with
  | undrawn fails =>
      rw [iterate, clearScores, Stage.change_bind_apply]
      exact Stage.bind_of_error (draw_of_drawFails fails)
  | unscored drawn fails =>
      rw [iterate, clearScores, Stage.change_bind_apply]
      exact Stage.bind_of_ok (draw_of_draws drawn) (Stage.bind_of_error (scoreBatch_of_scoreFails fails))
  | unestimated selects fails =>
      exact iterate_of_selects selects (Stage.bind_of_error (estimate_of_estimateFails fails))
  | unupdated selects estimates fails =>
      exact iterate_of_selects selects (Stage.bind_of_ok (estimate_of_estimates estimates)
        (Stage.bind_of_error (update_of_updateFails fails)))
  | completed selects estimates updates =>
      exact iterate_of_selects selects (Stage.bind_of_ok (estimate_of_estimates estimates)
        (Stage.bind_of_ok (update_of_updates updates) (adopt_apply _ _)))

theorem exists_selects {batch : Tensor α} {scorer : Scorer α S σ} {scores : List S} {last : σ}
    (valid : s.state.settings.validate = .ok ()) (drawn : Draws strategies (s.withScores none none) batch t)
    (installed : strategies.scorer = some scorer) (all : Scores scorer t.memory batch.rows scores last) :
    ∃ elite chosen u journal, Selects strategies s batch scores elite chosen u journal := by
  have count : scores.length = batch.extent 0 := all.length_eq.trans batch.length_rows
  have sized : batch.extent 0 = s.state.settings.numSamples := drawn.sized
  obtain ⟨pos, le⟩ := Settings.validate_eq_ok valid
  obtain ⟨elite, selected⟩ := Elite.exists_select? pos (show s.state.settings.numElite ≤ scores.length by omega)
  obtain ⟨chosen, picked, -⟩ := Elite.selectRows?_admitted elite.eliteScore count
  rw [← Elite.indices_of_select? selected] at picked
  exact ⟨elite, chosen, _, _, .intro drawn installed all selected picked⟩

theorem exists_course (strategies : Strategies P α S G σ) (valid : s.state.settings.validate = .ok ()) :
    ∃ result t journal, Course strategies s result t journal := by
  rcases draws_or_fails strategies (s.withScores none none) with ⟨batch, t, drawn⟩ | ⟨_, _, _, fails⟩
  · rcases scores_or_fails strategies t batch with ⟨scorer, scores, last, installed, all⟩ | ⟨_, _, _, fails⟩
    · obtain ⟨elite, chosen, u, _, selects⟩ := exists_selects valid drawn installed all
      rcases estimates_or_fails strategies u chosen with ⟨estimated, v, estimates⟩ | ⟨_, _, _, fails⟩
      · rcases updates_or_fails strategies v estimated with ⟨_, _, _, updates⟩ | ⟨_, _, _, fails⟩
        · exact ⟨_, _, _, .completed selects estimates updates⟩
        · exact ⟨_, _, _, .unupdated selects estimates fails⟩
      · exact ⟨_, _, _, .unestimated selects fails⟩
    · exact ⟨_, _, _, .unscored drawn fails⟩
  · exact ⟨_, _, _, .undrawn fails⟩

theorem iterate_eq_iff (valid : s.state.settings.validate = .ok ()) {result : Except SolveError (Event P S)}
    {journal : Journal P α S} :
    iterate strategies s = (result, t, journal) ↔ Course strategies s result t journal := by
  refine ⟨fun h => ?_, iterate_of_course⟩
  obtain ⟨result', t', journal', course⟩ := exists_course strategies valid
  rw [iterate_of_course course, Prod.mk.injEq, Prod.mk.injEq] at h
  obtain ⟨rfl, rfl, rfl⟩ := h
  exact course

end Iteration
end CrossEntropy
