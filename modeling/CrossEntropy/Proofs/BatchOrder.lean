import Mathlib.Data.EReal.Basic
import CrossEntropy.Proofs.Reordering
import CrossEntropy.Proofs.SortedScores
import CrossEntropy.Search.Stock

namespace CrossEntropy
variable {P α S G σ ω β : Type}

/-- Scores that are exact numbers, perhaps infinite: sorting and comparing agree on all of them. -/
class Score.Exact (S : Type) extends Score S, LinearOrder S where
  isNaN_eq : ∀ x : S, isNaN x = false
  sortLe_iff : ∀ x y : S, sortLe x y = true ↔ x ≤ y

noncomputable instance : Score.Exact EReal :=
  { (inferInstance : LinearOrder EReal) with
    worst := ⊤
    isNaN := fun _ => false
    sortLe := fun x y => decide (x ≤ y)
    decLe := inferInstance
    decLt := inferInstance
    isNaN_eq := fun _ => rfl
    sortLe_iff := fun _ _ => decide_eq_true_iff }

instance [Score.Exact S] : Score.Sortable S where
  trans x y z xy yz := by
    rw [Score.Exact.sortLe_iff] at xy yz ⊢
    exact le_trans xy yz
  total x y := by
    rw [Bool.or_eq_true, Score.Exact.sortLe_iff, Score.Exact.sortLe_iff]
    exact le_total x y

def Strategies.ofFunctions (generator : Generator P α S G σ) (estimator : Estimator P α S σ) (score : Tensor α → S)
    (update : Option (P → State P S → Except Failure P)) (stop : Option (State P S → Bool)) :
    Strategies P α S G σ where
  generator := some generator
  scorer := some fun sample memory => (.ok (score sample), memory)
  estimator := some estimator
  updater := update.map fun f estimated s memory => (f estimated s, memory)
  stopRule := stop.map .when

/-- Generators whose batches are the same up to the order of their rows and which leave the same random state,
as long as their memories are in a relation. -/
structure Generator.Reorders (memories : σ → σ → Prop) (generator generator' : Generator P α S G σ) : Prop where
  batch : ∀ s rng {memory memory'}, memories memory memory' →
    ExceptRel Eq Tensor.Reordered (generator s rng memory).1 (generator' s rng memory').1
  rng : ∀ s rng {memory memory'}, memories memory memory' →
    (generator' s rng memory').2.1 = (generator s rng memory).2.1
  memory : ∀ s rng {memory memory'}, memories memory memory' →
    memories (generator s rng memory).2.2 (generator' s rng memory').2.2

structure Estimator.Unordered (estimator : Estimator P α S σ) (errors : SolveError → SolveError → Prop) : Prop where
  result : ∀ {elite elite'}, elite.Reordered elite' → ∀ s memory memory',
    ExceptRel (fun failure failure' => errors (.estimate failure) (.estimate failure')) Eq
      (estimator elite s memory).1 (estimator elite' s memory').1
  memory : ∀ elite s memory, (estimator elite s memory).2 = memory

structure Session.Unordered (memories : σ → σ → Prop) (s t : Session P α S G σ) : Prop where
  state : t.state = s.state
  rng : t.rng = s.rng
  memory : memories s.memory t.memory

variable [Score.Exact S] {xs ys : List S} {batch batch' : Tensor α} {score : Tensor α → S}

namespace Elite

theorem sorted_perm (h : xs.Perm ys) : sorted xs = sorted ys := by
  have sorts : (sorted xs).map id = (sorted ys).map id :=
    map_sorted_eq (h.map id) (fun x _ y _ => (Score.Exact.sortLe_iff x y).1)
      fun x _ y _ => (Score.Exact.sortLe_iff x y).1
  rwa [List.map_id, List.map_id] at sorts

theorem ofRank?_perm (h : xs.Perm ys) (k : Nat) : ofRank? xs k = ofRank? ys k := by
  cases k with
  | zero => rfl
  | succ k => rw [ofRank?, ofRank?, sorted_perm h]

theorem within_perm {entries entries' : List β} (h : entries.Perm entries') (f : β → S) (bound : S) :
    (within bound entries (entries.map f)).Perm (within bound entries' (entries'.map f)) := by
  rw [within, within, ← List.map_prod_left_eq_zip, ← List.map_prod_left_eq_zip]
  exact ((h.map _).filter _).map _

end Elite

theorem Best.score_seeAll (track : Bool) (best : Best α S) (pairs : List (Tensor α × S)) :
    (best.seeAll track pairs).score = if track then (pairs.map Prod.snd).foldl min best.score else best.score := by
  induction pairs generalizing best with
  | nil => simp
  | cons pair pairs ih =>
      rw [seeAll_cons, ih]
      cases track with
      | false => simp [see]
      | true =>
          by_cases better : pair.2 < best.score
          · simp [see, better, min_eq_right better.le]
          · simp [see, better, min_eq_left (not_lt.1 better)]

theorem Best.score_perm (track : Bool) (best : Best α S) {pairs pairs' : List (Tensor α × S)}
    (h : (pairs.map Prod.snd).Perm (pairs'.map Prod.snd)) {best' : Best α S} (same : best'.score = best.score) :
    (best'.seeAll track pairs').score = (best.seeAll track pairs).score := by
  rw [score_seeAll, score_seeAll, same, h.foldl_eq' fun x _ y _ z => min_right_comm z x y]

section Stages
variable {memories : σ → σ → Prop} {errors : SolveError → SolveError → Prop}
  {generator generator' : Generator P α S G σ} {estimator : Estimator P α S σ}
  {update : Option (P → State P S → Except Failure P)} {stop : Option (State P S → Bool)}
  {s t : Session P α S G σ}

open Iteration Stage

omit [Score.Exact S] in
theorem draw_reordered (reorders : generator.Reorders memories generator') (same : ∀ e, errors e e)
    (sessions : s.Unordered memories t) :
    Alike (Session.Unordered memories) errors Tensor.Reordered
      (draw (.ofFunctions generator estimator score update stop) s)
      (draw (.ofFunctions generator' estimator score update stop) t) := by
  have batches := reorders.batch s.state s.rng sessions.memory
  have rng := reorders.rng s.state s.rng sessions.memory
  have memory := reorders.memory s.state s.rng sessions.memory
  simp only [draw, Strategies.ofFunctions, current_bind_apply, sessions.state, sessions.rng]
  generalize generator s.state s.rng s.memory = a at batches rng memory ⊢
  generalize generator' s.state s.rng t.memory = b at batches rng memory ⊢
  apply Alike.write_bind
  simp only [change_bind_apply]
  have drawn : ({ s with rng := a.2.1, memory := a.2.2 } : Session P α S G σ).Unordered memories
      { t with rng := b.2.1, memory := b.2.2 } := ⟨sessions.state, rng, memory⟩
  have results : ExceptRel (fun failure failure' => errors (.generate failure) (.generate failure'))
      Tensor.Reordered a.1 b.1 := by
    generalize a.1 = x at batches
    generalize b.1 = y at batches
    cases batches with
    | ok reordered => exact .ok reordered
    | error eq => exact .error (eq ▸ same _)
  refine Alike.bind (.ofExcept results drawn) fun {batch batch'} _ _ reordered sessions => ?_
  rw [reordered.extent]
  by_cases sized : batch.extent 0 = s.state.settings.numSamples
  · simp only [if_pos sized]
    exact .ok reordered sessions
  · simp only [if_neg sized]
    exact .error (same _) sessions

theorem scores_ofFunction (score : Tensor α → S) (memory : σ) (samples : List (Tensor α)) :
    Scores (fun sample memory => (.ok (score sample), memory)) memory samples (samples.map score) memory := by
  induction samples with
  | nil => exact .nil
  | cons sample samples ih => exact .cons rfl (Score.Exact.isNaN_eq _) ih

theorem scoreBatch_reordered (reordered : batch.Reordered batch') (sessions : s.Unordered memories t) :
    Alike (Session.Unordered memories) errors
      (fun xs ys => xs = batch.rows.map score ∧ ys = batch'.rows.map score)
      (scoreBatch (.ofFunctions generator estimator score update stop) batch s)
      (scoreBatch (.ofFunctions generator' estimator score update stop) batch' t) := by
  rw [scoreBatch_of_scores rfl (scores_ofFunction score s.memory batch.rows),
    scoreBatch_of_scores rfl (scores_ofFunction score t.memory batch'.rows)]
  refine .ok ⟨rfl, rfl⟩ ⟨?_, sessions.rng, sessions.memory⟩
  have best : (t.best.seeAll s.state.settings.trackBest (batch'.rows.zip (batch'.rows.map score))).score =
      (s.best.seeAll s.state.settings.trackBest (batch.rows.zip (batch.rows.map score))).score := by
    apply Best.score_perm
    · rw [List.map_snd_zip (by simp), List.map_snd_zip (by simp)]
      exact reordered.rows.map score
    · exact congrArg State.bestScore sessions.state
  simp only [scored, Session.withBest, Session.withMemory, sessions.state, best]

theorem select_reordered (h : xs.Perm ys) (same : ∀ e, errors e e) (sessions : s.Unordered memories t) :
    Alike (Session.Unordered memories) errors
      (fun elite elite' => ∃ low bound, elite = ⟨low, bound, Elite.admitted xs bound⟩ ∧
        elite' = ⟨low, bound, Elite.admitted ys bound⟩) (select xs s) (select ys t) := by
  simp only [select, current_bind_apply, sessions.state, Elite.select?, ← Elite.ofRank?_perm h]
  rcases Elite.ofRank? xs 1 with _ | low
  · exact .error (same _) sessions
  · rcases Elite.ofRank? xs s.state.settings.numElite with _ | bound
    · exact .error (same _) sessions
    · refine .ok ⟨low, bound, rfl, rfl⟩ ⟨?_, sessions.rng, sessions.memory⟩
      simp only [sessions.state]

theorem picks_reordered (reordered : batch.Reordered batch') (score : Tensor α → S) (bound : S) :
    ∃ chosen chosen', batch.selectRows? (Elite.admitted (batch.rows.map score) bound) = some chosen ∧
      batch'.selectRows? (Elite.admitted (batch'.rows.map score) bound) = some chosen' ∧ chosen.Reordered chosen' := by
  have within := Elite.within_perm reordered.rows score bound
  have count (a : Tensor α) : (a.rows.map score).length = a.extent 0 := by rw [List.length_map, a.length_rows]
  obtain ⟨chosen, picked, rows, shape⟩ := Elite.selectRows?_admitted bound (count batch)
  obtain ⟨chosen', picked', rows', shape'⟩ := Elite.selectRows?_admitted bound (count batch')
  refine ⟨chosen, chosen', picked, picked', ?_, ?_⟩
  · rw [shape, shape', within.length_eq, reordered.shape]
  · rw [rows, rows']
    exact within

omit [Score.Exact S] in
theorem estimate_reordered (unordered : estimator.Unordered errors) {chosen chosen' : Tensor α}
    (reordered : chosen.Reordered chosen') (sessions : s.Unordered memories t) :
    Alike (Session.Unordered memories) errors Eq
      (estimate (.ofFunctions generator estimator score update stop) chosen s)
      (estimate (.ofFunctions generator' estimator score update stop) chosen' t) := by
  simp only [estimate, Strategies.ofFunctions, current_bind_apply, sessions.state]
  apply Alike.write_bind
  simp only [change_bind_apply, unordered.memory]
  exact .ofExcept (unordered.result reordered s.state s.memory t.memory)
    ⟨sessions.state, sessions.rng, sessions.memory⟩

omit [Score.Exact S] in
theorem update_reordered (same : ∀ e, errors e e) (sessions : s.Unordered memories t) (estimated : P) :
    Alike (Session.Unordered memories) errors Eq
      (Iteration.update (.ofFunctions generator estimator score update stop) estimated s)
      (Iteration.update (.ofFunctions generator' estimator score update stop) estimated t) := by
  cases update with
  | none => exact .ok rfl sessions
  | some f =>
      simp only [Iteration.update, Strategies.ofFunctions, Option.map_some, current_bind_apply, sessions.state]
      apply Alike.write_bind
      exact .ofExcept_refl same _ _ ⟨sessions.state, sessions.rng, sessions.memory⟩

theorem iterate_reordered (reorders : generator.Reorders memories generator') (unordered : estimator.Unordered errors)
    (same : ∀ e, errors e e) (sessions : s.Unordered memories t) :
    Alike (Session.Unordered memories) errors Eq
      (iterate (.ofFunctions generator estimator score update stop) s)
      (iterate (.ofFunctions generator' estimator score update stop) t) := by
  have cleared : (s.withScores none none).Unordered memories (t.withScores none none) :=
    ⟨by simp only [Session.withScores, sessions.state], sessions.rng, sessions.memory⟩
  unfold iterate
  simp only [clearScores, change_bind_apply]
  refine Alike.bind (draw_reordered reorders same cleared) ?_
  intro batch batch' _ _ reordered drawn
  refine Alike.bind (scoreBatch_reordered reordered drawn) ?_
  rintro _ _ _ _ ⟨rfl, rfl⟩ scored
  have scores : (batch.rows.map score).Perm (batch'.rows.map score) := reordered.rows.map score
  refine Alike.bind (select_reordered scores same scored) ?_
  rintro _ _ _ _ ⟨low, bound, rfl, rfl⟩ selected
  obtain ⟨chosen, chosen', picked, picked', chosen_reordered⟩ := picks_reordered reordered score bound
  simp only [picked, picked']
  refine Alike.bind (estimate_reordered unordered chosen_reordered selected) ?_
  rintro estimated _ _ _ rfl estimates
  refine Alike.bind (update_reordered same estimates estimated) ?_
  rintro params _ u v rfl updates
  rw [adopt_apply, adopt_apply]
  have adopted : (u.adopting params).Unordered memories (v.adopting params) :=
    ⟨by simp only [Session.adopting, updates.state], updates.rng, updates.memory⟩
  refine .ok ?_ adopted
  simp only [event, adopted.state, Elite.length_admitted, scores.countP_eq]

end Stages

theorem inStep_reordered {memories : σ → σ → Prop} {errors : SolveError → SolveError → Prop}
    {generator generator' : Generator P α S G σ} {estimator : Estimator P α S σ}
    (reorders : generator.Reorders memories generator') (unordered : estimator.Unordered errors)
    (same : ∀ e, errors e e) (score : Tensor α → S) (update : Option (P → State P S → Except Failure P))
    (stop : Option (State P S → Bool)) :
    InStep (.ofFunctions generator estimator score update stop) (.ofFunctions generator' estimator score update stop)
      (Session.Unordered memories) errors Eq where
  settled sessions := by rw [sessions.state]
  iterates _ sessions := iterate_reordered reorders unordered same sessions
  decides {s t} sessions := by
    cases stop with
    | some condition =>
        simp only [finished, Strategies.ofFunctions, Option.map_some, Stage.current_bind_apply, sessions.state]
        apply Alike.write_bind
        exact .ok rfl ⟨sessions.state, sessions.rng, sessions.memory⟩
    | none =>
        simp only [finished, Strategies.ofFunctions, Option.map_none, Stage.current_bind_apply, sessions.state]
        cases s.state.settings.maxIters with
        | none => exact .error (same _) sessions
        | some limit => exact .ok rfl sessions

/-- Errors that are the same, or refuse one unknown value of a categorical sample or another. -/
inductive SolveError.SameButValue : SolveError → SolveError → Prop
  | refl (e : SolveError) : SameButValue e e
  | estimate {e e' : PickError} (same : Categorical.SameButValue e e') :
      SameButValue (.estimate (.pick e)) (.estimate (.pick e'))

inductive FamilyEstimator : ∀ {P α : Type}, Estimator P α S σ → (SolveError → SolveError → Prop) → Prop
  | gaussian : FamilyEstimator (Gaussian.estimator (R := ℝ)) Eq
  | beta : FamilyEstimator (Beta.estimator (R := ℝ)) Eq
  | categorical : FamilyEstimator (Categorical.estimator (R := ℝ)) SolveError.SameButValue

namespace FamilyEstimator
variable {estimator : Estimator P α S σ} {errors : SolveError → SolveError → Prop}

omit [Score.Exact S] in
theorem refl (family : FamilyEstimator estimator errors) (e : SolveError) : errors e e := by
  cases family with
  | gaussian | beta => rfl
  | categorical => exact .refl e

omit [Score.Exact S] in
theorem unordered (family : FamilyEstimator estimator errors) : estimator.Unordered errors := by
  cases family with
  | gaussian =>
      refine ⟨fun reordered s memory memory' => ?_, fun _ _ _ => rfl⟩
      simp only [Gaussian.estimator, Gaussian.fit?_reordered reordered]
      exact .ok rfl
  | beta =>
      refine ⟨fun {elite elite'} reordered s memory memory' => ?_, fun _ _ _ => rfl⟩
      simp only [Beta.estimator, Beta.fit_reordered reordered s.params]
      cases Beta.fit (R := ℝ) elite' s.params with
      | ok => exact .ok rfl
      | error => exact .error rfl
  | categorical =>
      refine ⟨fun {elite elite'} reordered s memory memory' => ?_, fun _ _ _ => rfl⟩
      have fits := Categorical.fit_reordered (R := ℝ) reordered (Categorical.numValues s.params)
      simp only [Categorical.estimator]
      generalize Categorical.fit (R := ℝ) elite (Categorical.numValues s.params) = a at fits ⊢
      generalize Categorical.fit (R := ℝ) elite' (Categorical.numValues s.params) = b at fits ⊢
      cases fits with
      | ok same => exact .ok same
      | error same => exact .error (.estimate same)

end FamilyEstimator

/-- Two runs of a family whose generators return the same samples in different orders keep up with each other:
after each iteration they have the same state, and have shown their observer the same events. -/
theorem batch_order_irrelevant {estimator : Estimator P α S σ} {errors : SolveError → SolveError → Prop}
    (family : FamilyEstimator estimator errors) {memories : σ → σ → Prop} {generator generator' : Generator P α S G σ}
    (reorders : generator.Reorders memories generator') (score : Tensor α → S)
    (update : Option (P → State P S → Except Failure P)) (stop : Option (State P S → Bool))
    {s t : Session P α S G σ} (sessions : s.Unordered memories t) (observer : Observer P S ω) (watcher : ω) (n : Nat) :
    Problem.Lockstep ⟨.ofFunctions generator estimator score update stop, s⟩
      ⟨.ofFunctions generator' estimator score update stop, t⟩ observer watcher (Session.Unordered memories) errors
      Eq n := by
  have inStep := inStep_reordered reorders family.unordered family.refl score update stop
  have fresh : ({ s with state := { s.state with numIters := 0 } } : Session P α S G σ).Unordered memories
      { t with state := { t.state with numIters := 0 } } :=
    ⟨by simp only [sessions.state], sessions.rng, sessions.memory⟩
  exact inStep.lockstep (fun same => same ▸ rfl) family.refl sessions fresh watcher n

theorem Tensor.rows_vector (entries : List β) : (vector entries).rows = entries.map scalar := by
  apply List.ext_getElem
  · rw [length_rows, List.length_map]
    rfl
  · intro k inside inside'
    simp only [rows, List.getElem_ofFn, List.getElem_map]
    refine ext_getElem rfl fun i here _ => ?_
    cases i with
    | nil =>
        refine (get_ofFn here).trans ?_
        simp [getElem_eq_get, get, vector, scalar, Shape.offset]
    | cons _ _ => exact here.elim

noncomputable def inOrder : Generator (Gaussian ℝ) ℝ EReal Unit Nat := fun _ rng calls =>
  (.ok (Tensor.vector [0, 1, -1]), rng, calls)

noncomputable def shuffled : Generator (Gaussian ℝ) ℝ EReal Unit Nat := fun s rng calls =>
  (.ok (if s.numIters % 2 = 0 then Tensor.vector [-1, 0, 1] else Tensor.vector [1, -1, 0]), rng, calls + 1)

theorem irrelevant_of_shuffled :
    let settings : Settings := { numSamples := 3, numElite := 2, maxIters := some 2 }
    let s : Session (Gaussian ℝ) ℝ EReal Unit Nat :=
      { state := { State.initial ⟨.scalar 0, .scalar 1⟩ with settings }, rng := (), memory := 0, bestSample := none }
    let score (sample : Tensor ℝ) : EReal := ((sample.toList.sum : ℝ) : EReal)
    inOrder.Reorders (fun _ _ => True) shuffled ∧
      ∃ out out', Problem.solve ⟨.ofFunctions inOrder Gaussian.estimator score none none, s⟩ 2 = some out ∧
        Problem.solve ⟨.ofFunctions shuffled Gaussian.estimator score none none, s⟩ 2 = some out' ∧
        out'.session.state = out.session.state ∧ out.ending = out'.ending := by
  intro settings s score
  have reorders : inOrder.Reorders (fun _ _ => True) shuffled := by
    refine ⟨fun s rng _ _ _ => .ok ?_, fun _ _ _ _ _ => rfl, fun _ _ _ _ _ => trivial⟩
    split
    · refine ⟨rfl, ?_⟩
      have order : ([0, 1] ++ [-1] : List ℝ).Perm ([-1] ++ [0, 1]) := List.perm_append_comm
      rw [Tensor.rows_vector, Tensor.rows_vector]
      exact order.map _
    · refine ⟨rfl, ?_⟩
      have order : ([0] ++ [1, -1] : List ℝ).Perm ([1, -1] ++ [0]) := List.perm_append_comm
      rw [Tensor.rows_vector, Tensor.rows_vector]
      exact order.map _
  refine ⟨reorders, ?_⟩
  have same : s.Unordered (fun _ _ => True) s := ⟨rfl, rfl, trivial⟩
  cases batch_order_irrelevant .gaussian reorders score none none same .silent () 2 with
  | ended made made' alike => exact ⟨_, _, made, made', alike.session.state, alike.ending.eq⟩
  | goesOn proceeds => exact absurd (Problem.proceeds_below (p := ⟨_, s⟩) rfl rfl rfl proceeds) (by decide)

end CrossEntropy
