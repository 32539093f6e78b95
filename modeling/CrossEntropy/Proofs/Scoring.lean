import CrossEntropy.Proofs.Rows
import CrossEntropy.Proofs.Session
import CrossEntropy.Proofs.Stage
import CrossEntropy.Search.Iteration

namespace CrossEntropy
variable {P α S G σ : Type} [Score S] {scorer : Scorer α S σ} {strategies : Strategies P α S G σ}
  {s : Session P α S G σ} {batch : Tensor α}

inductive Scores (scorer : Scorer α S σ) : σ → List (Tensor α) → List S → σ → Prop
  | nil {memory} : Scores scorer memory [] [] memory
  | cons {sample samples score scores memory next last} (returned : scorer sample memory = (.ok score, next))
      (number : Score.isNaN score = false) (rest : Scores scorer next samples scores last) :
      Scores scorer memory (sample :: samples) (score :: scores) last

/-- The error that a run ends with if the scorer returns this for the sample of this number. -/
def rejection (index : Nat) : Except Failure S → Option SolveError
  | .error failure => some (.score index failure)
  | .ok score => if Score.isNaN score then some (.nanScore index) else none

theorem rejection_eq_some {index : Nat} {result : Except Failure S} {e : SolveError}
    (rejected : rejection index result = some e) : (∃ failure, e = .score index failure) ∨ e = .nanScore index := by
  cases result with
  | error failure => exact .inl ⟨failure, (Option.some.inj rejected).symm⟩
  | ok score =>
      rw [rejection] at rejected
      split at rejected
      · exact .inr (Option.some.inj rejected).symm
      · cases rejected

theorem Scores.length_eq {memory last : σ} {samples : List (Tensor α)} {scores : List S}
    (h : Scores scorer memory samples scores last) : scores.length = samples.length := by
  induction h with
  | nil => rfl
  | cons _ _ _ ih => rw [List.length_cons, List.length_cons, ih]

theorem Scores.number {memory last : σ} {samples : List (Tensor α)} {scores : List S}
    (h : Scores scorer memory samples scores last) : ∀ score ∈ scores, Score.isNaN score = false := by
  induction h with
  | nil => simp
  | cons _ number _ ih =>
      rintro score (_ | ⟨_, member⟩)
      · exact number
      · exact ih score member

theorem scores_or_rejects (scorer : Scorer α S σ) (memory : σ) (samples : List (Tensor α)) (base : Nat) :
    (∃ scores last, Scores scorer memory samples scores last) ∨
    ∃ (index : Nat) (inside : index < samples.length) (scores : List S) (between : σ)
      (result : Except Failure S) (last : σ) (e : SolveError),
      Scores scorer memory (samples.take index) scores between ∧
      scorer samples[index] between = (result, last) ∧ rejection (base + index) result = some e := by
  induction samples generalizing memory base with
  | nil => exact .inl ⟨[], memory, .nil⟩
  | cons sample samples ih =>
      obtain ⟨result, next, returned⟩ : ∃ result next, scorer sample memory = (result, next) :=
        ⟨_, _, rfl⟩
      cases rejected : rejection base result with
      | some e =>
          exact .inr ⟨0, Nat.succ_pos _, [], memory, result, next, e, .nil, returned, rejected⟩
      | none =>
          cases result with
          | error failure => cases rejected
          | ok score =>
              have number : Score.isNaN score = false := by
                by_cases nan : Score.isNaN score = true
                · simp [rejection, nan] at rejected
                · simpa using nan
              rcases ih next (base + 1) with ⟨scores, last, scored⟩ | ⟨index, inside, scores, between,
                result, last, e, scored, fails, rejected⟩
              · exact .inl ⟨_, _, .cons returned number scored⟩
              · refine .inr ⟨index + 1, Nat.succ_lt_succ inside, score :: scores, between, result, last, e,
                  .cons returned number scored, fails, ?_⟩
                rwa [Nat.add_assoc, Nat.add_comm 1] at rejected

namespace Iteration

def scored (s : Session P α S G σ) (pairs : List (Tensor α × S)) (memory : σ) : Session P α S G σ :=
  (s.withMemory memory).withBest (s.best.seeAll s.state.settings.trackBest pairs)

def scoring (s : Session P α S G σ) (index : Nat) (pairs : List (Tensor α × S)) : Journal P α S :=
  Journal.scoring s.state.settings.trackBest s.best index pairs

theorem scoring_cons (s : Session P α S G σ) (index : Nat) (pair : Tensor α × S)
    (pairs : List (Tensor α × S)) (next : σ) :
    scoring s index (pair :: pairs) =
      scoring s index [pair] ++ scoring (scored s [pair] next) (index + 1) pairs :=
  Journal.scoring_append _ s.best index [pair] pairs

theorem remember_apply (index : Nat) (sample : Tensor α) (score : S) :
    remember index sample score s =
      (.ok (), s.withBest (s.best.see s.state.settings.trackBest (sample, score)),
        if s.state.settings.trackBest = true ∧ score < s.best.score then
          [.log (.newMinimum index score)] else []) := by
  rw [remember, Stage.current_bind_apply]
  by_cases better : s.state.settings.trackBest = true ∧ score < s.best.score
  · simp only [Best.see, if_pos better, if_pos (show _ ∧ score < s.state.bestScore from better)]
    rfl
  · simp only [Best.see, if_neg better, if_neg (show ¬(_ ∧ score < s.state.bestScore) from better)]
    rfl

theorem scoreSample_of_ok {sample : Tensor α} {score : S} {memory : σ} (index : Nat)
    (returned : scorer sample s.memory = (.ok score, memory)) (number : Score.isNaN score = false) :
    scoreSample scorer index sample s =
      (.ok score, scored s [(sample, score)] memory, scoring s index [(sample, score)]) := by
  simp only [scoreSample, Stage.current_bind_apply, returned]
  apply Stage.write_bind_of
  simp only [Stage.change_bind_apply, Stage.ofExcept_ok, Stage.pure_bind_apply, number,
    Bool.false_eq_true, if_false]
  exact Stage.bind_of_ok (remember_apply index sample score) rfl

theorem scoreSample_of_rejection {sample : Tensor α} {result : Except Failure S} {memory : σ}
    {index : Nat} {e : SolveError} (returned : scorer sample s.memory = (result, memory))
    (rejected : rejection index result = some e) :
    scoreSample scorer index sample s = (.error e, s.withMemory memory, [.score index sample result]) := by
  simp only [scoreSample, Stage.current_bind_apply, returned]
  apply Stage.write_bind_of
  cases result with
  | error failure =>
      obtain rfl : SolveError.score index failure = e := Option.some.inj rejected
      rfl
  | ok score =>
      by_cases nan : Score.isNaN score = true
      · rw [rejection, if_pos nan] at rejected
        obtain rfl := Option.some.inj rejected
        simp only [Stage.change_bind_apply, Stage.ofExcept_ok, Stage.pure_bind_apply, nan, if_true]
        rfl
      · simp [rejection, nan] at rejected

theorem scoreFrom_of_scores {left index : Nat} (h : left + index = batch.extent 0) {scores : List S}
    {last : σ} (all : Scores scorer s.memory (batch.rows.drop index) scores last) :
    scoreFrom scorer batch left index h s =
      (.ok scores, scored s ((batch.rows.drop index).zip scores) last,
        scoring s index ((batch.rows.drop index).zip scores)) := by
  induction left generalizing index s scores with
  | zero =>
      have none : batch.rows.drop index = [] := List.drop_eq_nil_of_le (by rw [batch.length_rows]; omega)
      rw [none] at all ⊢
      cases all
      rfl
  | succ left ih =>
      have rows := Tensor.drop_rows (a := batch) (k := index) (by omega)
      rw [rows] at all ⊢
      cases all with
      | @cons _ _ score _ _ next _ returned number rest =>
          have first := scoreSample_of_ok index returned number
          have others := ih (s := scored s [(batch.row index (by omega), score)] next) (by omega) rest
          rw [List.zip_cons_cons, scoring_cons s index _ _ next]
          exact Stage.bind_of_ok first (Stage.map_of_ok others)

theorem scoreFrom_of_rejection {left index count place : Nat} (h : left + index = batch.extent 0)
    (counted : place = index + count) (inside : place < batch.extent 0) {scores : List S}
    {between last : σ} {result : Except Failure S} {e : SolveError}
    (before : Scores scorer s.memory ((batch.rows.drop index).take count) scores between)
    (returned : scorer (batch.row place inside) between = (result, last))
    (rejected : rejection place result = some e) :
    scoreFrom scorer batch left index h s =
      (.error e, scored s (((batch.rows.drop index).take count).zip scores) last,
        scoring s index (((batch.rows.drop index).take count).zip scores) ++
          [.score place (batch.row place inside) result]) := by
  cases left with
  | zero => omega
  | succ left =>
      -- On the samples before the rejected one: the loop itself does not know where it will stop.
      induction count generalizing left index s scores with
      | zero =>
          cases before
          subst counted
          exact Stage.bind_of_error (scoreSample_of_rejection returned rejected)
      | succ count ih =>
          have rows := Tensor.drop_rows (a := batch) (k := index) (by omega)
          rw [rows, List.take_succ_cons] at before ⊢
          cases before with
          | @cons _ _ score _ _ next _ accepted number rest =>
              have first := scoreSample_of_ok index accepted number
              obtain ⟨left, rfl⟩ : ∃ k, left = k + 1 := ⟨left - 1, by omega⟩
              have others := ih (s := scored s [(batch.row index (by omega), score)] next)
                (by omega : place = index + 1 + count) rest left (by omega)
              rw [List.zip_cons_cons, scoring_cons s index _ _ next, List.append_assoc]
              exact Stage.bind_of_ok first (Stage.map_of_error others)

inductive ScoreFails (strategies : Strategies P α S G σ) (s : Session P α S G σ) (batch : Tensor α) :
    SolveError → Session P α S G σ → Journal P α S → Prop
  | missing (absent : strategies.scorer = none) : ScoreFails strategies s batch (.missing .score) s []
  | rejected {scorer index scores between result last e} (installed : strategies.scorer = some scorer)
      (inside : index < batch.extent 0)
      (before : Scores scorer s.memory (batch.rows.take index) scores between)
      (returned : scorer (batch.row index inside) between = (result, last))
      (rejected : rejection index result = some e) :
      ScoreFails strategies s batch e (scored s ((batch.rows.take index).zip scores) last)
        (scoring s 0 ((batch.rows.take index).zip scores) ++ [.score index (batch.row index inside) result])

theorem ScoreFails.settings {e : SolveError} {t : Session P α S G σ} {journal : Journal P α S}
    (h : ScoreFails strategies s batch e t journal) : t.state.settings = s.state.settings := by
  cases h <;> rfl

theorem ScoreFails.numIters {e : SolveError} {t : Session P α S G σ} {journal : Journal P α S}
    (h : ScoreFails strategies s batch e t journal) : t.state.numIters = s.state.numIters := by
  cases h <;> rfl

theorem scoreBatch_of_scores {scores : List S} {last : σ} (installed : strategies.scorer = some scorer)
    (all : Scores scorer s.memory batch.rows scores last) :
    scoreBatch strategies batch s =
      (.ok scores, scored s (batch.rows.zip scores) last, scoring s 0 (batch.rows.zip scores)) := by
  simp only [scoreBatch, installed]
  exact scoreFrom_of_scores (rfl : batch.extent 0 + 0 = batch.extent 0) all

theorem scoreBatch_of_scoreFails {e : SolveError} {t : Session P α S G σ} {journal : Journal P α S}
    (h : ScoreFails strategies s batch e t journal) : scoreBatch strategies batch s = (.error e, t, journal) := by
  cases h with
  | missing absent => simp only [scoreBatch, absent, Stage.fail_apply]
  | rejected installed inside before returned rejected =>
      simp only [scoreBatch, installed]
      exact scoreFrom_of_rejection (rfl : batch.extent 0 + 0 = batch.extent 0) (Nat.zero_add _).symm inside before
        returned rejected

theorem scores_or_fails (strategies : Strategies P α S G σ) (s : Session P α S G σ) (batch : Tensor α) :
    (∃ scorer scores last, strategies.scorer = some scorer ∧ Scores scorer s.memory batch.rows scores last) ∨
      ∃ e t journal, ScoreFails strategies s batch e t journal := by
  cases installed : strategies.scorer with
  | none => exact .inr ⟨_, _, _, .missing installed⟩
  | some scorer =>
      rcases scores_or_rejects scorer s.memory batch.rows 0 with ⟨scores, last, all⟩ |
        ⟨index, inside, scores, between, result, last, e, before, returned, rejected⟩
      · exact .inl ⟨scorer, scores, last, rfl, all⟩
      · rw [batch.length_rows] at inside
        simp only [Tensor.rows, List.getElem_ofFn] at returned
        rw [Nat.zero_add] at rejected
        exact .inr ⟨_, _, _, .rejected installed inside before returned rejected⟩

end Iteration
end CrossEntropy
