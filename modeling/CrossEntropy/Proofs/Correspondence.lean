import Mathlib.Data.List.Forall2
import CrossEntropy.Proofs.Reordering
import CrossEntropy.Proofs.SideBySide
import CrossEntropy.Search.Stock

/-!
Runs on corresponding samples. Two sets of strategies correspond if from corresponding parameters they draw batches
that correspond row by row, give corresponding samples the same score, and fit and update parameters that correspond
again. Then each iteration of one is followed by an iteration of the other (`Correspond.course`), which selects the
same rows of its batch, and the two runs keep up with each other to their ends (`Correspond.inTandem`).
-/

namespace CrossEntropy
variable {P α S G σ β γ μ : Type}

structure Tensor.RowWise (layout : Shape) (sample : Tensor α → Tensor α → Prop) (a b : Tensor α) : Prop where
  shape : b.shape = a.shape
  layout : a.shape = a.extent 0 :: layout
  rows : List.Forall₂ sample a.rows b.rows

structure State.Matches (params : P → P → Prop) (s t : State P S) : Prop where
  params : params s.params t.params
  rest : t = { s with params := t.params }

structure Event.Matches (params : P → P → Prop) (event event' : Event P S) : Prop where
  params : params event.params event'.params
  rest : event' = { event with params := event'.params }

structure Session.Matches (params : P → P → Prop) (seen : Tensor α → Tensor α → Prop) (s t : Session P α S G σ) :
    Prop where
  state : s.state.Matches params t.state
  rng : t.rng = s.rng
  memory : t.memory = s.memory
  bestSample : Option.Rel seen s.bestSample t.bestSample

structure Answers (values : β → γ → Prop) (answer : Except Failure β × μ) (answer' : Except Failure γ × μ) : Prop where
  result : ExceptRel Eq values answer.1 answer'.1
  left : answer'.2 = answer.2

namespace Answers
variable {values : β → γ → Prop} {answer' : Except Failure γ × μ} {left : μ}

theorem ok {x : β} (h : Answers values (.ok x, left) answer') : ∃ y, answer' = (.ok y, left) ∧ values x y := by
  obtain ⟨result, same⟩ := h
  rcases answer' with ⟨result', left'⟩
  obtain rfl : left' = left := same
  cases result with
  | ok related => exact ⟨_, rfl, related⟩

theorem error {failure : Failure} (h : Answers values (.error failure, left) answer') :
    answer' = (.error failure, left) := by
  obtain ⟨result, same⟩ := h
  rcases answer' with ⟨result', left'⟩
  obtain rfl : left' = left := same
  cases result with
  | error same => rw [same]

end Answers

section Installed
variable {installed : β → γ → Prop} {a : Option β} {b : Option γ}

theorem exists_of_rel {x : β} (h : Option.Rel installed a b) (found : a = some x) :
    ∃ y, b = some y ∧ installed x y := by
  subst found
  cases h with
  | some related => exact ⟨_, rfl, related⟩

theorem none_of_rel (h : Option.Rel installed a b) (absent : a = none) : b = none := by
  subst absent
  cases h
  rfl

end Installed

/-- Strategies that correspond: generators, scorers, estimators and updaters are both there or both missing, and
answer alike where they are given alike. `seen` is what is said of a sample that is kept as the best one. -/
structure Strategies.Correspond (strategies strategies' : Strategies P α S G σ) (params : P → P → Prop)
    (layout : Shape) (sample seen : Tensor α → Tensor α → Prop) : Prop where
  generator : Option.Rel (fun generator generator' => ∀ {s t : State P S}, s.Matches params t →
      ∀ (rng : G) (memory : σ),
        Answers (Tensor.RowWise layout sample) (generator s rng memory) (generator' t rng memory))
    strategies.generator strategies'.generator
  scorer : Option.Rel (fun scorer scorer' => ∀ x y, sample x y → scorer' y = scorer x)
    strategies.scorer strategies'.scorer
  estimator : Option.Rel (fun estimator estimator' => ∀ {elite elite' : Tensor α} {s t : State P S},
      elite.RowWise layout sample elite' → s.Matches params t → ∀ memory : σ,
      Answers params (estimator elite s memory) (estimator' elite' t memory))
    strategies.estimator strategies'.estimator
  updater : Option.Rel (fun updater updater' => ∀ {estimated estimated' : P} {s t : State P S},
      params estimated estimated' → s.Matches params t → ∀ memory : σ,
      Answers params (updater estimated s memory) (updater' estimated' t memory))
    strategies.updater strategies'.updater
  seen : ∀ {x y}, sample x y → seen x y

variable {strategies strategies' : Strategies P α S G σ} {params : P → P → Prop} {layout : Shape}
  {sample seen : Tensor α → Tensor α → Prop} {s t u : Session P α S G σ} {batch batch' chosen : Tensor α}
  {xs ys : List (Tensor α)} {scores : List S} {journal : Journal P α S} {n : Nat}

namespace Tensor.RowWise

theorem extent (h : batch.RowWise layout sample batch') (axis : Nat) : batch'.extent axis = batch.extent axis := by
  rw [Tensor.extent, Tensor.extent, h.shape]

theorem row (h : batch.RowWise layout sample batch') {k : Nat} (lt : k < batch.extent 0) (lt' : k < batch'.extent 0) :
    sample (batch.row k lt) (batch'.row k lt') := by
  have rows := h.rows.get (i := k) (batch.length_rows.symm ▸ lt) (batch'.length_rows.symm ▸ lt')
  simpa only [Tensor.rows, List.get_eq_getElem, List.getElem_ofFn] using rows

theorem of_row {count : Nat} (shape : batch.shape = count :: layout) (shape' : batch'.shape = count :: layout)
    (rows : ∀ k, (lt : k < batch.extent 0) → (lt' : k < batch'.extent 0) → sample (batch.row k lt) (batch'.row k lt')) :
    batch.RowWise layout sample batch' := by
  have height : batch.extent 0 = count := Tensor.extent_zero shape
  have height' : batch'.extent 0 = count := Tensor.extent_zero shape'
  refine ⟨shape'.trans shape.symm, height.symm ▸ shape, List.forall₂_iff_get.2 ⟨?_, fun k lt lt' => ?_⟩⟩
  · rw [batch.length_rows, batch'.length_rows, height, height']
  · have row := rows k (batch.length_rows ▸ lt) (batch'.length_rows ▸ lt')
    simpa only [Tensor.rows, List.get_eq_getElem, List.getElem_ofFn] using row

theorem lane (h : batch.RowWise layout sample batch') {f : α → α} {i : List Nat}
    (entry : ∀ {x y}, sample x y → y[i]? = x[i]?.map f) : batch'.lane 0 i = (batch.lane 0 i).map f := by
  have rows := h.rows
  rw [Tensor.lane_zero, Tensor.lane_zero]
  generalize batch.rows = xs at rows ⊢
  generalize batch'.rows = ys at rows ⊢
  induction rows with
  | nil => rfl
  | @cons x y _ _ first _ ih =>
      rw [List.filterMap_cons, List.filterMap_cons, entry first, ih]
      cases x[i]? <;> rfl

theorem countP (h : batch.RowWise layout sample batch') {q : Tensor α → Bool}
    (same : ∀ {x y}, sample x y → q y = q x) : batch'.rows.countP q = batch.rows.countP q := by
  have rows := h.rows
  generalize batch.rows = xs at rows ⊢
  generalize batch'.rows = ys at rows ⊢
  induction rows with
  | nil => rfl
  | cons first _ ih => rw [List.countP_cons, List.countP_cons, ih, same first]

end Tensor.RowWise

namespace Session.Matches

theorem settings (h : s.Matches params seen t) : t.state.settings = s.state.settings := by
  rw [h.state.rest]

theorem numIters (h : s.Matches params seen t) : t.state.numIters = s.state.numIters := by
  rw [h.state.rest]

theorem withScores (h : s.Matches params seen t) (minScore eliteScore : Option S) :
    (s.withScores minScore eliteScore).Matches params seen (t.withScores minScore eliteScore) := by
  refine ⟨⟨h.state.params, ?_⟩, h.rng, h.memory, h.bestSample⟩
  simp only [Session.withScores]
  rw [h.state.rest]

theorem withMemory (h : s.Matches params seen t) (memory : σ) :
    (s.withMemory memory).Matches params seen (t.withMemory memory) :=
  ⟨h.state, h.rng, rfl, h.bestSample⟩

theorem adopting (h : s.Matches params seen t) {adopted adopted' : P} (related : params adopted adopted') :
    (s.adopting adopted).Matches params seen (t.adopting adopted') := by
  refine ⟨⟨related, ?_⟩, h.rng, h.memory, h.bestSample⟩
  simp only [Session.adopting]
  rw [h.state.rest]

theorem event (h : s.Matches params seen t) (elite : Elite S) :
    (Iteration.event s elite).Matches params (Iteration.event t elite) := by
  refine ⟨h.state.params, ?_⟩
  simp only [Iteration.event]
  rw [h.state.rest]

end Session.Matches

variable [Score S]

theorem Scores.corresponding {scorer scorer' : Scorer α S σ} {memory last : σ}
    (same : ∀ x y, sample x y → scorer' y = scorer x) (related : List.Forall₂ sample xs ys)
    (all : Scores scorer memory xs scores last) : Scores scorer' memory ys scores last := by
  induction related generalizing memory scores with
  | nil =>
      cases all
      exact .nil
  | cons first _ ih =>
      cases all with
      | cons returned number rest => exact .cons ((congrFun (same _ _ first) _).trans returned) number (ih rest)

theorem Elite.within_corresponding (related : List.Forall₂ sample xs ys) (bound : S) (scores : List S) :
    List.Forall₂ sample (Elite.within bound xs scores) (Elite.within bound ys scores) := by
  induction related generalizing scores with
  | nil => exact .nil
  | cons first _ ih =>
      cases scores with
      | nil => exact .nil
      | cons score scores =>
          have rest := ih scores
          simp only [Elite.within, List.zip_cons_cons, List.filter_cons] at rest ⊢
          by_cases admits : score ≤ bound
          · simpa only [admits, decide_true, if_true, List.map_cons] using .cons first rest
          · simpa only [admits, decide_false, Bool.false_eq_true, if_false] using rest

theorem Best.seeAll_corresponding {best best' : Best α S} (keeps : ∀ {x y}, sample x y → seen x y) (track : Bool)
    (score : best'.score = best.score) (kept : Option.Rel seen best.sample best'.sample)
    (related : List.Forall₂ sample xs ys) (scores : List S) :
    (best'.seeAll track (ys.zip scores)).score = (best.seeAll track (xs.zip scores)).score ∧
      Option.Rel seen (best.seeAll track (xs.zip scores)).sample (best'.seeAll track (ys.zip scores)).sample := by
  induction related generalizing best best' scores with
  | nil => exact ⟨score, kept⟩
  | @cons x y _ _ first _ ih =>
      cases scores with
      | nil => exact ⟨score, kept⟩
      | cons value scores =>
          rw [List.zip_cons_cons, List.zip_cons_cons, Best.seeAll_cons, Best.seeAll_cons]
          by_cases better : track = true ∧ value < best.score
          · have better' : track = true ∧ value < best'.score := score ▸ better
            have replaced : best.see track (x, value) = ⟨value, some x⟩ := if_pos better
            have replaced' : best'.see track (y, value) = ⟨value, some y⟩ := if_pos better'
            rw [replaced, replaced']
            exact @ih ⟨value, some x⟩ ⟨value, some y⟩ rfl (.some (keeps first)) scores
          · have worse' : ¬(track = true ∧ value < best'.score) := score ▸ better
            have stays : best.see track (x, value) = best := if_neg better
            have stays' : best'.see track (y, value) = best' := if_neg worse'
            rw [stays, stays']
            exact ih score kept scores

/-- Two runs without observers that keep up with each other: what they leave matches after each iteration, from
matching states they draw batches that correspond row by row, and they score and select these alike. -/
structure Problem.InTandem (p q : Problem P α S G σ) (params : P → P → Prop) (layout : Shape)
    (sample seen : Tensor α → Tensor α → Prop) : Prop where
  lockstep : ∀ n, p.Lockstep q .silent () (Session.Matches params seen) Eq (Event.Matches params) n
  draws : ∀ {n s t journal journal' batch u}, p.settings.validate = .ok () →
    Proceeds p.strategies .silent n p.fresh () s () journal → Proceeds q.strategies .silent n q.fresh () t () journal' →
    Iteration.Draws p.strategies (s.withScores none none) batch u →
    ∃ batch' v, Iteration.Draws q.strategies (t.withScores none none) batch' v ∧
      batch.RowWise layout sample batch' ∧ u.Matches params seen v
  selects : ∀ {n s t journal journal' batch scores elite chosen u last}, p.settings.validate = .ok () →
    Proceeds p.strategies .silent n p.fresh () s () journal → Proceeds q.strategies .silent n q.fresh () t () journal' →
    Iteration.Selects p.strategies s batch scores elite chosen u last →
    ∃ batch' chosen' v last', Iteration.Selects q.strategies t batch' scores elite chosen' v last' ∧
      batch.RowWise layout sample batch' ∧ chosen.RowWise layout sample chosen' ∧ u.Matches params seen v

namespace Strategies.Correspond
variable {elite : Elite S} {estimated estimated' adopted : P} {e : SolveError}

open Iteration

omit [Score S] in
theorem draws (corresponds : strategies.Correspond strategies' params layout sample seen)
    (matched : s.Matches params seen t) (h : Draws strategies s batch u) :
    ∃ batch' v, Draws strategies' t batch' v ∧ batch.RowWise layout sample batch' ∧ u.Matches params seen v := by
  cases h with
  | intro installed returned sized =>
      obtain ⟨generator', installed', answers⟩ := exists_of_rel corresponds.generator installed
      have answers := answers matched.state s.rng s.memory
      rw [returned] at answers
      obtain ⟨batch', returned', related⟩ := answers.ok
      rw [← matched.rng, ← matched.memory] at returned'
      have sized' : batch'.extent 0 = t.state.settings.numSamples := by
        rw [related.extent, sized, matched.settings]
      exact ⟨batch', _, .intro installed' returned' sized', related, matched.state, rfl, rfl, matched.bestSample⟩

omit [Score S] in
theorem drawFails (corresponds : strategies.Correspond strategies' params layout sample seen)
    (matched : s.Matches params seen t) (h : DrawFails strategies s e u journal) :
    ∃ v journal', DrawFails strategies' t e v journal' ∧ u.Matches params seen v := by
  cases h with
  | missing absent => exact ⟨t, [], .missing (none_of_rel corresponds.generator absent), matched⟩
  | failed installed returned =>
      obtain ⟨generator', installed', answers⟩ := exists_of_rel corresponds.generator installed
      have answers := answers matched.state s.rng s.memory
      rw [returned] at answers
      have returned' := answers.error
      rw [← matched.rng, ← matched.memory] at returned'
      exact ⟨_, _, .failed installed' returned', matched.state, rfl, rfl, matched.bestSample⟩
  | missized installed returned missized =>
      obtain ⟨generator', installed', answers⟩ := exists_of_rel corresponds.generator installed
      have answers := answers matched.state s.rng s.memory
      rw [returned] at answers
      obtain ⟨batch', returned', related⟩ := answers.ok
      rw [← matched.rng, ← matched.memory] at returned'
      rw [← related.extent, ← matched.settings] at missized ⊢
      exact ⟨_, _, .missized installed' returned' missized, matched.state, rfl, rfl, matched.bestSample⟩

theorem scored (corresponds : strategies.Correspond strategies' params layout sample seen)
    (matched : s.Matches params seen t) (related : List.Forall₂ sample xs ys) (scores : List S) (memory : σ) :
    (Iteration.scored s (xs.zip scores) memory).Matches params seen (Iteration.scored t (ys.zip scores) memory) := by
  have best : t.best.score = s.best.score := by
    change t.state.bestScore = s.state.bestScore
    rw [matched.state.rest]
  obtain ⟨score, kept⟩ := Best.seeAll_corresponding corresponds.seen s.state.settings.trackBest best
    matched.bestSample related scores
  rw [Iteration.scored, Iteration.scored, matched.settings]
  refine ⟨⟨matched.state.params, ?_⟩, matched.rng, rfl, kept⟩
  simp only [Session.withBest, Session.withMemory]
  rw [score, matched.state.rest]

theorem scoreFails (corresponds : strategies.Correspond strategies' params layout sample seen)
    (matched : s.Matches params seen t) (related : batch.RowWise layout sample batch')
    (h : ScoreFails strategies s batch e u journal) :
    ∃ v journal', ScoreFails strategies' t batch' e v journal' ∧ u.Matches params seen v := by
  cases h with
  | missing absent => exact ⟨t, [], .missing (none_of_rel corresponds.scorer absent), matched⟩
  | @rejected scorer index scores _ _ last _ installed inside before returned rejected =>
      obtain ⟨scorer', installed', same⟩ := exists_of_rel corresponds.scorer installed
      have inside' : index < batch'.extent 0 := related.extent 0 ▸ inside
      have rows := List.forall₂_take index related.rows
      have before' := before.corresponding same rows
      rw [← matched.memory] at before'
      have returned' := (congrFun (same _ _ (related.row inside inside')) _).trans returned
      exact ⟨_, _, .rejected installed' inside' before' returned' rejected, corresponds.scored matched rows scores last⟩

theorem selects (corresponds : strategies.Correspond strategies' params layout sample seen)
    (matched : s.Matches params seen t) (h : Selects strategies s batch scores elite chosen u journal) :
    ∃ batch' chosen' v journal', Selects strategies' t batch' scores elite chosen' v journal' ∧
      batch.RowWise layout sample batch' ∧ chosen.RowWise layout sample chosen' ∧ u.Matches params seen v := by
  obtain ⟨rows, shape⟩ := h.chosen
  cases h with
  | intro drawn installed all selected picked =>
      obtain ⟨batch', v, drawn', related, drew⟩ := corresponds.draws (matched.withScores none none) drawn
      obtain ⟨scorer', installed', same⟩ := exists_of_rel corresponds.scorer installed
      have all' := all.corresponding same related.rows
      rw [← drew.memory] at all'
      have count : scores.length = batch'.extent 0 := all'.length_eq.trans batch'.length_rows
      obtain ⟨chosen', picked', rows', shape'⟩ := Elite.selectRows?_admitted elite.eliteScore count
      rw [← Elite.indices_of_select? selected] at picked'
      rw [← matched.settings] at selected
      have within := Elite.within_corresponding related.rows elite.eliteScore scores
      rw [← rows, ← rows'] at within
      have size : chosen'.extent 0 = chosen.extent 0 := by
        rw [← chosen'.length_rows, ← chosen.length_rows, within.length_eq]
      have layouts : chosen.RowWise layout sample chosen' := by
        refine ⟨?_, ?_, within⟩
        · rw [shape', ← rows', chosen'.length_rows, size, related.shape, ← shape]
        · have tail : batch.shape.tail = layout := congrArg List.tail related.layout
          rw [tail] at shape
          exact shape
      have scored := corresponds.scored drew related.rows scores
      exact ⟨batch', chosen', _, _, .intro drawn' installed' all' selected picked', related, layouts,
        (scored _).withScores _ _⟩

omit [Score S] in
theorem estimates (corresponds : strategies.Correspond strategies' params layout sample seen)
    (matched : s.Matches params seen t) {chosen' : Tensor α} (related : chosen.RowWise layout sample chosen')
    (h : Estimates strategies s chosen estimated u) :
    ∃ estimated' v, Estimates strategies' t chosen' estimated' v ∧ params estimated estimated' ∧
      u.Matches params seen v := by
  cases h with
  | intro installed returned =>
      obtain ⟨estimator', installed', answers⟩ := exists_of_rel corresponds.estimator installed
      have answers := answers related matched.state s.memory
      rw [returned] at answers
      obtain ⟨estimated', returned', fits⟩ := answers.ok
      rw [← matched.memory] at returned'
      exact ⟨estimated', _, .intro installed' returned', fits, matched.withMemory _⟩

omit [Score S] in
theorem estimateFails (corresponds : strategies.Correspond strategies' params layout sample seen)
    (matched : s.Matches params seen t) {chosen' : Tensor α} (related : chosen.RowWise layout sample chosen')
    (h : EstimateFails strategies s chosen e u journal) :
    ∃ v journal', EstimateFails strategies' t chosen' e v journal' ∧ u.Matches params seen v := by
  cases h with
  | missing absent => exact ⟨t, [], .missing (none_of_rel corresponds.estimator absent), matched⟩
  | failed installed returned =>
      obtain ⟨estimator', installed', answers⟩ := exists_of_rel corresponds.estimator installed
      have answers := answers related matched.state s.memory
      rw [returned] at answers
      have returned' := answers.error
      rw [← matched.memory] at returned'
      exact ⟨_, _, .failed installed' returned', matched.withMemory _⟩

omit [Score S] in
theorem updates (corresponds : strategies.Correspond strategies' params layout sample seen)
    (matched : s.Matches params seen t) (related : params estimated estimated')
    (h : Updates strategies s estimated adopted u journal) :
    ∃ adopted' v journal', Updates strategies' t estimated' adopted' v journal' ∧ params adopted adopted' ∧
      u.Matches params seen v := by
  cases h with
  | keep absent => exact ⟨_, t, [], .keep (none_of_rel corresponds.updater absent), related, matched⟩
  | apply installed returned =>
      obtain ⟨updater', installed', answers⟩ := exists_of_rel corresponds.updater installed
      have answers := answers related matched.state s.memory
      rw [returned] at answers
      obtain ⟨adopted', returned', mixes⟩ := answers.ok
      rw [← matched.memory] at returned'
      exact ⟨adopted', _, _, .apply installed' returned', mixes, matched.withMemory _⟩

omit [Score S] in
theorem updateFails (corresponds : strategies.Correspond strategies' params layout sample seen)
    (matched : s.Matches params seen t) (related : params estimated estimated')
    (h : UpdateFails strategies s estimated e u journal) :
    ∃ v journal', UpdateFails strategies' t estimated' e v journal' ∧ u.Matches params seen v := by
  cases h with
  | failed installed returned =>
      obtain ⟨updater', installed', answers⟩ := exists_of_rel corresponds.updater installed
      have answers := answers related matched.state s.memory
      rw [returned] at answers
      have returned' := answers.error
      rw [← matched.memory] at returned'
      exact ⟨_, _, .failed installed' returned', matched.withMemory _⟩

theorem course (corresponds : strategies.Correspond strategies' params layout sample seen)
    (matched : s.Matches params seen t) {result : Except SolveError (Event P S)}
    (h : Course strategies s result u journal) :
    ∃ result' v journal', Course strategies' t result' v journal' ∧ ExceptRel Eq (Event.Matches params) result result' ∧
      u.Matches params seen v := by
  cases h with
  | undrawn fails =>
      obtain ⟨v, _, fails', left⟩ := corresponds.drawFails (matched.withScores none none) fails
      exact ⟨_, v, _, .undrawn fails', .error rfl, left⟩
  | unscored drawn fails =>
      obtain ⟨_, _, drawn', related, drew⟩ := corresponds.draws (matched.withScores none none) drawn
      obtain ⟨v, _, fails', left⟩ := corresponds.scoreFails drew related fails
      exact ⟨_, v, _, .unscored drawn' fails', .error rfl, left⟩
  | unestimated selects fails =>
      obtain ⟨_, _, _, _, selects', -, related, selected⟩ := corresponds.selects matched selects
      obtain ⟨v, _, fails', left⟩ := corresponds.estimateFails selected related fails
      exact ⟨_, v, _, .unestimated selects' fails', .error rfl, left⟩
  | unupdated selects estimates fails =>
      obtain ⟨_, _, _, _, selects', -, related, selected⟩ := corresponds.selects matched selects
      obtain ⟨_, _, estimates', fits, estimating⟩ := corresponds.estimates selected related estimates
      obtain ⟨v, _, fails', left⟩ := corresponds.updateFails estimating fits fails
      exact ⟨_, v, _, .unupdated selects' estimates' fails', .error rfl, left⟩
  | completed selects estimates updates =>
      obtain ⟨_, _, _, _, selects', -, related, selected⟩ := corresponds.selects matched selects
      obtain ⟨_, _, estimates', fits, estimating⟩ := corresponds.estimates selected related estimates
      obtain ⟨_, _, _, updates', mixes, updating⟩ := corresponds.updates estimating fits updates
      have left := updating.adopting mixes
      exact ⟨_, _, _, .completed selects' estimates' updates', .ok (left.event _), left⟩

theorem inStep (corresponds : strategies.Correspond strategies' params layout sample seen)
    (absent : strategies.stopRule = none) (absent' : strategies'.stopRule = none) :
    InStep strategies strategies' (Session.Matches params seen) Eq (Event.Matches params) where
  settled matched := congrArg Settings.validate matched.settings
  iterates valid matched := by
    obtain ⟨result, u, _, course⟩ := exists_course strategies valid
    obtain ⟨result', v, _, course', results, left⟩ := corresponds.course matched course
    rw [iterate_of_course course, iterate_of_course course']
    cases results with
    | ok event => exact .ok event left
    | error same => exact .error same left
  decides {s t} matched := by
    simp only [finished, Stage.current_bind_apply, absent, absent', matched.settings, matched.numIters]
    cases s.state.settings.maxIters with
    | none => exact .error rfl matched
    | some limit => exact .ok rfl matched

theorem inTandem {p q : Problem P α S G σ}
    (corresponds : p.strategies.Correspond q.strategies params layout sample seen)
    (absent : p.strategies.stopRule = none) (absent' : q.strategies.stopRule = none)
    (matched : p.session.Matches params seen q.session) : p.InTandem q params layout sample seen := by
  have inStep := corresponds.inStep absent absent'
  have fresh : p.fresh.Matches params seen q.fresh := by
    refine ⟨⟨matched.state.params, ?_⟩, matched.rng, matched.memory, matched.bestSample⟩
    have rest : q.state = _ := matched.state.rest
    rw [Problem.fresh, Problem.fresh, rest]
  have going {n s t journal journal'} (valid : p.settings.validate = .ok ())
      (proceeds : Proceeds p.strategies .silent n p.fresh () s () journal)
      (proceeds' : Proceeds q.strategies .silent n q.fresh () t () journal') : s.Matches params seen t := by
    obtain ⟨v, _, again, left, -⟩ := inStep.proceeds_alike (s := p.fresh) (fun _ => rfl) valid fresh proceeds
    obtain ⟨rfl, -⟩ := proceeds'.unique again
    exact left
  refine ⟨inStep.lockstep (fun _ => rfl) (fun _ => rfl) matched fresh (), ?_, ?_⟩
  · intro n s t journal journal' batch u valid proceeds proceeds' drawn
    exact corresponds.draws ((going valid proceeds proceeds').withScores none none) drawn
  · intro n s t journal journal' batch scores elite chosen u last valid proceeds proceeds' selects
    exact corresponds.selects (going valid proceeds proceeds') selects

end Strategies.Correspond

section Families
variable {R : Type} [Scalar R] [Mix R P] {generator : Generator P α S G σ} {estimator : Estimator P α S σ}

/-- The strategies of a family and no stop rule. There may be an updater if it smooths. -/
structure Strategies.Default (R : Type) [Scalar R] [Mix R P] (generator : Generator P α S G σ)
    (estimator : Estimator P α S σ) (strategies : Strategies P α S G σ) : Prop where
  generator : strategies.generator = some generator
  estimator : strategies.estimator = some estimator
  updater : strategies.updater = none ∨ ∃ smoothing : Smoothing R, strategies.updater = some smoothing.updater
  stopRule : strategies.stopRule = none

/-- Corresponding parameters give corresponding batches, these give corresponding parameters, and mixtures of
corresponding parameters correspond. -/
structure Equivariant (R : Type) [Scalar R] [Mix R P] (generator : Generator P α S G σ)
    (estimator : Estimator P α S σ) (params : P → P → Prop) (layout : Shape) (sample : Tensor α → Tensor α → Prop) :
    Prop where
  draws : ∀ {s t : State P S}, s.Matches params t → ∀ (rng : G) (memory : σ),
    Answers (Tensor.RowWise layout sample) (generator s rng memory) (generator t rng memory)
  fits : ∀ {elite elite' : Tensor α} {s t : State P S}, elite.RowWise layout sample elite' → s.Matches params t →
    ∀ memory : σ, Answers params (estimator elite s memory) (estimator elite' t memory)
  mixes : ∀ (smoothing : Smoothing R) {estimated estimated' current current' : P}, params estimated estimated' →
    params current current' →
    Option.Rel params (mix? smoothing.weight estimated current) (mix? smoothing.weight estimated' current')

namespace Equivariant
variable (equivariant : Equivariant R generator estimator params layout sample)
include equivariant

omit [Score S] in
theorem smooths (smoothing : Smoothing R) {estimated estimated' : P} {s t : State P S}
    (related : params estimated estimated') (matched : s.Matches params t) (memory : σ) :
    Answers params (smoothing.updater estimated s memory) (smoothing.updater estimated' t memory) := by
  have mixes := equivariant.mixes smoothing related matched.params
  rw [Smoothing.updater, Updater.mix, Updater.mix]
  generalize mix? smoothing.weight estimated s.params = mixed at mixes ⊢
  generalize mix? smoothing.weight estimated' t.params = mixed' at mixes ⊢
  cases mixes with
  | none => exact ⟨.error rfl, rfl⟩
  | some related => exact ⟨.ok related, rfl⟩

omit [Score S] in
theorem correspond (default : strategies.Default R generator estimator) {scorer' : Option (Scorer α S σ)}
    (scores : Option.Rel (fun scorer scorer' => ∀ x y, sample x y → scorer' y = scorer x) strategies.scorer scorer')
    (keeps : ∀ {x y}, sample x y → seen x y) :
    strategies.Correspond { strategies with scorer := scorer' } params layout sample seen := by
  refine ⟨?_, scores, ?_, ?_, keeps⟩
  · simp only [default.generator]
    exact .some equivariant.draws
  · simp only [default.estimator]
    exact .some equivariant.fits
  · rcases default.updater with absent | ⟨smoothing, smooths⟩
    · simp only [absent]
      exact .none
    · simp only [smooths]
      exact .some (equivariant.smooths smoothing)

theorem inTandem {p : Problem P α S G σ} (default : p.strategies.Default R generator estimator)
    {scorer' : Option (Scorer α S σ)} {session : Session P α S G σ}
    (scores : Option.Rel (fun scorer scorer' => ∀ x y, sample x y → scorer' y = scorer x) p.strategies.scorer scorer')
    (keeps : ∀ {x y}, sample x y → seen x y) (matched : p.session.Matches params seen session) :
    p.InTandem ⟨{ p.strategies with scorer := scorer' }, session⟩ params layout sample seen :=
  (equivariant.correspond default scores keeps).inTandem default.stopRule default.stopRule matched

end Equivariant
end Families
end CrossEntropy
