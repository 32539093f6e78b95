import CrossEntropy.Proofs.SideBySide

namespace CrossEntropy
variable {P α S G σ β : Type}

/-- Strategies that look at the state only through a view of it; this says nothing of the stop rule. -/
structure Strategies.SeesOnly (strategies : Strategies P α S G σ) (view : State P S → β) : Prop where
  generator : ∀ {generator}, strategies.generator = some generator →
    ∀ {s t}, view s = view t → generator s = generator t
  estimator : ∀ {estimator}, strategies.estimator = some estimator →
    ∀ {elite s t}, view s = view t → estimator elite s = estimator elite t
  updater : ∀ {updater}, strategies.updater = some updater →
    ∀ {estimated s t}, view s = view t → updater estimated s = updater estimated t

def Scorer.rescored (scorer : Scorer α S σ) (g : S → S) : Scorer α S σ := fun sample memory =>
  ((scorer sample memory).1.map g, (scorer sample memory).2)

def Strategies.rescored (strategies : Strategies P α S G σ) (g : S → S) : Strategies P α S G σ :=
  { strategies with scorer := strategies.scorer.map (·.rescored g) }

theorem Strategies.rescored_id (strategies : Strategies P α S G σ) : strategies.rescored id = strategies := by
  have same (scorer : Scorer α S σ) : scorer.rescored id = scorer := by
    funext sample memory
    rcases returned : scorer sample memory with ⟨result | result, next⟩ <;> simp [Scorer.rescored, returned, Except.map]
  simp [Strategies.rescored, same]

structure Elite.Alike (scores : S → S → Prop) (elite elite' : Elite S) : Prop where
  minScore : scores elite.minScore elite'.minScore
  eliteScore : scores elite.eliteScore elite'.eliteScore
  indices : elite'.indices = elite.indices

structure Session.Like (states : State P S → State P S → Prop) (s t : Session P α S G σ) : Prop where
  state : states s.state t.state
  rng : t.rng = s.rng
  memory : t.memory = s.memory
  bestSample : t.bestSample = s.bestSample

variable [Score S]

/-- A relation between scores that does not change how they compare and which samples are selected. -/
structure Score.Graded (scores : S → S → Prop) : Prop where
  lt : ∀ {x y x' y'}, scores x y → scores x' y' → (y < y' ↔ x < x')
  select : ∀ {xs ys}, List.Forall₂ scores xs ys →
    ∀ k, Option.Rel (Elite.Alike scores) (Elite.select? xs k) (Elite.select? ys k)

/-- Strategies whose answers are the same in states in a relation, and do not lead out of it, if scores are
translated. -/
structure Strategies.Unaware (strategies : Strategies P α S G σ) (g : S → S) (scores : S → S → Prop)
    (view : State P S → β) (states : State P S → State P S → Prop) : Prop where
  graded : Score.Graded scores
  isNaN : ∀ x, Score.isNaN (g x) = Score.isNaN x
  translated : ∀ {x}, Score.isNaN x = false → scores x (g x)
  sees : strategies.SeesOnly view
  view : ∀ {s t}, states s t → view t = view s
  numSamples : ∀ {s t}, states s t → t.settings.numSamples = s.settings.numSamples
  numElite : ∀ {s t}, states s t → t.settings.numElite = s.settings.numElite
  trackBest : ∀ {s t}, states s t → t.settings.trackBest = s.settings.trackBest
  bestScore : ∀ {s t}, states s t → scores s.bestScore t.bestScore
  withScores : ∀ {s t low low' bound bound'}, states s t → Option.Rel scores low low' →
    Option.Rel scores bound bound' →
    states { s with minScore := low, eliteScore := bound } { t with minScore := low', eliteScore := bound' }
  withBest : ∀ {s t x y}, states s t → scores x y → states { s with bestScore := x } { t with bestScore := y }
  adopting : ∀ {s t params}, states s t →
    states { s with params, numIters := s.numIters + 1 } { t with params, numIters := t.numIters + 1 }

namespace Strategies.Unaware
variable {strategies : Strategies P α S G σ} {g : S → S} {scores : S → S → Prop} {view : State P S → β}
  {states : State P S → State P S → Prop} {s t : Session P α S G σ}

open Iteration Stage

theorem cleared (unaware : strategies.Unaware g scores view states) (like : s.Like states t) :
    (s.withScores none none).Like states (t.withScores none none) :=
  ⟨unaware.withScores like.state .none .none, like.rng, like.memory, like.bestSample⟩

theorem draw_alike (unaware : strategies.Unaware g scores view states) (like : s.Like states t) :
    Alike (Session.Like states) Eq Eq (draw strategies s) (draw (strategies.rescored g) t) := by
  change Alike _ _ _ _ (draw strategies t)
  cases installed : strategies.generator with
  | none =>
      simp only [draw, installed]
      exact .error rfl like
  | some generator =>
      have same := unaware.sees.generator installed (unaware.view like.state)
      obtain ⟨result, rng, memory, returned⟩ :
          ∃ result rng memory, generator s.state s.rng s.memory = (result, rng, memory) := ⟨_, _, _, rfl⟩
      have returned' : generator t.state t.rng t.memory = (result, rng, memory) := by
        rw [same, like.rng, like.memory, returned]
      simp only [draw, installed, current_bind_apply, returned, returned', unaware.numSamples like.state]
      apply Alike.write_bind
      simp only [change_bind_apply]
      refine Alike.bind (.ofExcept_refl (fun _ => rfl) _ result ⟨like.state, rfl, rfl, like.bestSample⟩) ?_
      rintro batch _ u v rfl sessions
      by_cases sized : batch.extent 0 = s.state.settings.numSamples
      · simp only [if_pos sized]
        exact .ok rfl sessions
      · simp only [if_neg sized]
        exact .error rfl sessions

theorem see (unaware : strategies.Unaware g scores view states) (like : s.Like states t) (sample : Tensor α) {x y : S}
    (related : scores x y) :
    (s.withBest (s.best.see s.state.settings.trackBest (sample, x))).Like states
      (t.withBest (t.best.see t.state.settings.trackBest (sample, y))) := by
  have better : y < t.best.score ↔ x < s.best.score := unaware.graded.lt related (unaware.bestScore like.state)
  rw [unaware.trackBest like.state, Best.see, Best.see]
  simp only [better]
  split
  · exact ⟨unaware.withBest like.state related, like.rng, like.memory, rfl⟩
  · exact like

theorem scoreSample_alike (unaware : strategies.Unaware g scores view states) (like : s.Like states t)
    (scorer : Scorer α S σ) (index : Nat) (sample : Tensor α) :
    Alike (Session.Like states) Eq scores (scoreSample scorer index sample s)
      (scoreSample (scorer.rescored g) index sample t) := by
  obtain ⟨result, memory, returned⟩ : ∃ result memory, scorer sample s.memory = (result, memory) := ⟨_, _, rfl⟩
  simp only [scoreSample, current_bind_apply, Scorer.rescored, like.memory, returned]
  apply Alike.write_bind
  have sessions : (s.withMemory memory).Like states (t.withMemory memory) :=
    ⟨like.state, like.rng, rfl, like.bestSample⟩
  simp only [change_bind_apply]
  cases result with
  | error failure => exact .error rfl sessions
  | ok x =>
      simp only [Except.map, ofExcept_ok, pure_bind_apply, unaware.isNaN]
      cases number : Score.isNaN x with
      | true => exact .error rfl sessions
      | false =>
          have related := unaware.translated number
          simp only [Bool.false_eq_true, if_false]
          have remembers : Alike (Session.Like states) Eq (fun _ _ => True)
              (remember index sample x (s.withMemory memory)) (remember index sample (g x) (t.withMemory memory)) := by
            rw [remember_apply, remember_apply]
            exact .ok trivial (unaware.see sessions sample related)
          exact Alike.bind remembers fun _ sessions => .ok related sessions

theorem scoreFrom_alike (unaware : strategies.Unaware g scores view states) (like : s.Like states t)
    (scorer : Scorer α S σ) (batch : Tensor α) {left index : Nat} (h : left + index = batch.extent 0) :
    Alike (Session.Like states) Eq (List.Forall₂ scores)
      (scoreFrom scorer batch left index h s) (scoreFrom (scorer.rescored g) batch left index h t) := by
  induction left generalizing index s t with
  | zero => exact .ok .nil like
  | succ left ih =>
      refine Alike.bind (unaware.scoreSample_alike like scorer index _) fun related sessions => ?_
      exact Alike.map (ih sessions _) fun rest => .cons related rest

theorem scoreBatch_alike (unaware : strategies.Unaware g scores view states) (like : s.Like states t)
    (batch : Tensor α) :
    Alike (Session.Like states) Eq (List.Forall₂ scores)
      (scoreBatch strategies batch s) (scoreBatch (strategies.rescored g) batch t) := by
  cases installed : strategies.scorer with
  | none =>
      simp only [scoreBatch, installed, Strategies.rescored, Option.map_none]
      exact .error rfl like
  | some scorer =>
      simp only [scoreBatch, installed, Strategies.rescored, Option.map_some]
      exact unaware.scoreFrom_alike like scorer batch _

theorem select_alike (unaware : strategies.Unaware g scores view states) (like : s.Like states t) {xs ys : List S}
    (related : List.Forall₂ scores xs ys) :
    Alike (Session.Like states) Eq (Elite.Alike scores) (select xs s) (select ys t) := by
  have selected := unaware.graded.select related s.state.settings.numElite
  simp only [select, current_bind_apply, unaware.numElite like.state]
  generalize Elite.select? xs s.state.settings.numElite = a at selected ⊢
  generalize Elite.select? ys s.state.settings.numElite = b at selected ⊢
  cases selected with
  | none => exact .error rfl like
  | some elites =>
      exact .ok elites ⟨unaware.withScores like.state (.some elites.minScore) (.some elites.eliteScore), like.rng,
        like.memory, like.bestSample⟩

theorem estimate_alike (unaware : strategies.Unaware g scores view states) (like : s.Like states t)
    (chosen : Tensor α) :
    Alike (Session.Like states) Eq Eq (estimate strategies chosen s) (estimate (strategies.rescored g) chosen t) := by
  change Alike _ _ _ _ (estimate strategies chosen t)
  cases installed : strategies.estimator with
  | none =>
      simp only [estimate, installed]
      exact .error rfl like
  | some estimator =>
      have same : estimator chosen t.state = estimator chosen s.state :=
        unaware.sees.estimator installed (unaware.view like.state)
      simp only [estimate, installed, current_bind_apply, same, like.memory]
      apply Alike.write_bind
      exact .ofExcept_refl (fun _ => rfl) _ _ ⟨like.state, like.rng, rfl, like.bestSample⟩

theorem update_alike (unaware : strategies.Unaware g scores view states) (like : s.Like states t) (estimated : P) :
    Alike (Session.Like states) Eq Eq (update strategies estimated s)
      (update (strategies.rescored g) estimated t) := by
  change Alike _ _ _ _ (update strategies estimated t)
  cases installed : strategies.updater with
  | none =>
      simp only [update, installed]
      exact .ok rfl like
  | some updater =>
      have same : updater estimated t.state = updater estimated s.state :=
        unaware.sees.updater installed (unaware.view like.state)
      simp only [update, installed, current_bind_apply, same, like.memory]
      apply Alike.write_bind
      exact .ofExcept_refl (fun _ => rfl) _ _ ⟨like.state, like.rng, rfl, like.bestSample⟩

theorem iterate_alike (unaware : strategies.Unaware g scores view states) (like : s.Like states t) :
    Alike (Session.Like states) Eq (fun event event' => ∃ (u v : Session P α S G σ) (elite elite' : Elite S),
        u.Like states v ∧ elite.Alike scores elite' ∧ event = Iteration.event u elite ∧
          event' = Iteration.event v elite')
      (iterate strategies s) (iterate (strategies.rescored g) t) := by
  unfold iterate
  simp only [clearScores, change_bind_apply]
  refine Alike.bind (unaware.draw_alike (unaware.cleared like)) ?_
  rintro batch _ _ _ rfl drawn
  refine Alike.bind (unaware.scoreBatch_alike drawn batch) fun related scored => ?_
  refine Alike.bind (unaware.select_alike scored related) ?_
  intro elite elite' _ _ elites selected
  rw [elites.indices]
  cases batch.selectRows? elite.indices with
  | none => exact .error rfl selected
  | some chosen =>
      refine Alike.bind (unaware.estimate_alike selected chosen) ?_
      rintro estimated _ _ _ rfl estimates
      refine Alike.bind (unaware.update_alike estimates estimated) ?_
      rintro params _ u v rfl updates
      rw [adopt_apply, adopt_apply]
      have adopted : (u.adopting params).Like states (v.adopting params) :=
        ⟨unaware.adopting updates.state, updates.rng, updates.memory, updates.bestSample⟩
      exact .ok ⟨_, _, elite, elite', adopted, elites, rfl, rfl⟩ adopted

theorem all_scored (unaware : strategies.Unaware g scores view states) {scorer : Scorer α S σ} {memory last : σ}
    {samples : List (Tensor α)} {xs : List S} (all : Scores scorer memory samples xs last) :
    Scores (scorer.rescored g) memory samples (xs.map g) last ∧ List.Forall₂ scores xs (xs.map g) := by
  induction all with
  | nil => exact ⟨.nil, .nil⟩
  | @cons sample _ x _ memory next _ returned number _ ih =>
      have returned' : scorer.rescored g sample memory = (.ok (g x), next) := by
        rw [Scorer.rescored, returned]
        rfl
      exact ⟨.cons returned' ((unaware.isNaN x).trans number) ih.1, .cons (unaware.translated number) ih.2⟩

theorem draws (unaware : strategies.Unaware g scores view states) (like : s.Like states t) {batch : Tensor α}
    {u : Session P α S G σ} (h : Draws strategies s batch u) :
    ∃ v, Draws (strategies.rescored g) t batch v ∧ u.Like states v := by
  have alike := unaware.draw_alike like
  rcases made : draw (strategies.rescored g) t with ⟨result, v, journal⟩
  rw [draw_of_draws h, made] at alike
  cases alike with
  | ok same sessions => exact ⟨v, draws_of_draw (same ▸ made), sessions⟩

theorem selects (unaware : strategies.Unaware g scores view states) (like : s.Like states t)
    {batch chosen : Tensor α} {xs : List S} {elite : Elite S} {u : Session P α S G σ} {journal : Journal P α S}
    (h : Selects strategies s batch xs elite chosen u journal) :
    ∃ elite' v journal', Selects (strategies.rescored g) t batch (xs.map g) elite' chosen v journal' ∧
      elite.Alike scores elite' := by
  cases h with
  | intro drawn installed all selected picked =>
      obtain ⟨v, drawn', sessions⟩ := unaware.draws (unaware.cleared like) drawn
      obtain ⟨all', related⟩ := unaware.all_scored all
      rw [← sessions.memory] at all'
      have installed' := congrArg (Option.map fun scorer : Scorer α S σ => scorer.rescored g) installed
      have elites := unaware.graded.select related s.state.settings.numElite
      rw [selected, ← unaware.numElite like.state] at elites
      rcases selected' : Elite.select? (xs.map g) t.state.settings.numElite with _ | elite' <;>
        rw [selected'] at elites
      · cases elites
      · cases elites with
        | some elites =>
            rw [← elites.indices] at picked
            exact ⟨elite', _, _, .intro drawn' installed' all' selected' picked, elites⟩

end Strategies.Unaware
end CrossEntropy
