import CrossEntropy.Proofs.FloatOrder
import CrossEntropy.Proofs.Run

namespace CrossEntropy
variable {P α G σ ω : Type}

section Runs
variable {S : Type} [Score S] {strategies : Strategies P α S G σ} {observer : Observer P S ω}
  {s t u : Session P α S G σ} {watcher watcher' : ω} {n : Nat} {journal : Journal P α S}

open Iteration

theorem Scores.scored {scorer : Scorer α S σ} {memory last : σ} {samples : List (Tensor α)} {scores : List S}
    (h : Scores scorer memory samples scores last) (track : Bool) (best : Best α S) (index : Nat) :
    (Journal.scoring (P := P) track best index (samples.zip scores)).scored = samples.zip scores := by
  apply Journal.scored_scoring
  intro pair member
  exact h.number pair.2 (List.of_mem_zip member).2

theorem scored_rejection {index : Nat} {sample : Tensor α} {result : Except Failure S} {e : SolveError}
    (rejected : rejection index result = some e) :
    Journal.scored (P := P) [.score index sample result] = [] := by
  cases result with
  | error failure => rfl
  | ok score =>
      by_cases nan : Score.isNaN score = true
      · simp [Journal.scored, nan]
      · simp [rejection, nan] at rejected

theorem Iteration.Selects.pairs {batch chosen : Tensor α} {scores : List S} {elite : Elite S}
    (h : Selects strategies s batch scores elite chosen t journal) : journal.scored = batch.rows.zip scores := by
  cases h with
  | intro drawn installed all => exact all.scored _ _ 0

theorem Iteration.Selects.seen {batch chosen : Tensor α} {scores : List S} {elite : Elite S} {last : Journal P α S}
    (h : Selects strategies s batch scores elite chosen t journal) (best : u.best = t.best)
    (rest : last.scored = []) :
    u.best = s.best.seeAll s.state.settings.trackBest (journal ++ last).scored := by
  rw [Journal.scored_append, h.pairs, rest, List.append_nil]
  exact best.trans h.best

theorem Iteration.Course.seen {result : Except SolveError (Event P S)}
    (h : Course strategies s result t journal) :
    t.best = s.best.seeAll s.state.settings.trackBest journal.scored := by
  cases h with
  | undrawn fails =>
      have best := fails.best
      cases fails with
      | missing | failed | missized => exact best
  | unscored drawn fails =>
      have best := drawn.best
      have state := drawn.state
      cases fails with
      | missing => exact best
      | rejected installed inside before returned rejected =>
          change Best.seeAll _ _ _ = Best.seeAll _ _ (Journal.scored (scoring _ 0 _ ++ _))
          rw [Journal.scored_append, scoring, before.scored, scored_rejection rejected, List.append_nil, state, best]
          rfl
  -- What is written after the selection scores nothing more.
  | unestimated selects fails => exact selects.seen fails.best (by cases fails <;> rfl)
  | unupdated selects estimates fails =>
      exact selects.seen (fails.best.trans estimates.best) (by cases fails; rfl)
  | completed selects estimates updates =>
      exact selects.seen (updates.best.trans estimates.best) (by cases updates <;> rfl)

theorem scored_reported {event : Event P S} {verdict : Verdict} {notes : List (LogRecord S)} :
    (reported journal event verdict notes).scored = journal.scored := by
  rw [reported, Journal.scored_append]
  change journal.scored ++ Journal.scored (notes.map Entry.log) = _
  rw [Journal.scored_map_log, List.append_nil]

theorem scored_reported_append {event : Event P S} {verdict : Verdict} {notes : List (LogRecord S)}
    {last : Journal P α S} (quiet : last.scored = []) :
    (reported journal event verdict notes ++ last).scored = journal.scored := by
  rw [Journal.scored_append, scored_reported, quiet, List.append_nil]

theorem Decides.scored {stop : Bool} (h : Decides strategies s stop t journal) : journal.scored = [] := by
  cases h <;> rfl

theorem Step.seen {made : Outcome P α S G σ ω (Option (Except SolveError Ending))}
    (h : Step strategies observer s watcher made) :
    made.session.best = s.best.seeAll s.state.settings.trackBest made.journal.scored := by
  cases h with
  | fails course => exact course.seen
  | stopped course answer =>
      rw [scored_reported_append rfl]
      exact course.seen
  | undecided course =>
      rw [scored_reported]
      exact course.seen
  | ends course answer decides =>
      rw [List.append_assoc, scored_reported_append (by rw [Journal.scored_append, decides.scored]; rfl)]
      exact decides.best.trans course.seen
  | goesOn course answer decides =>
      rw [scored_reported_append decides.scored]
      exact decides.best.trans course.seen

theorem Proceeds.seen (h : Proceeds strategies observer n s watcher t watcher' journal)
    (valid : s.state.settings.validate = .ok ()) :
    t.best = s.best.seeAll s.state.settings.trackBest journal.scored := by
  induction h with
  | refl => rfl
  | next first _ ih =>
      have course := (step_eq_iff valid).1 first
      have later := ih (course.settings.symm ▸ valid)
      rw [later, course.settings, course.seen, Journal.scored_append, Best.seeAll_append]

theorem solveUnder_seen {p : Problem P α S G σ} {limit : Nat}
    {out : Outcome P α S G σ ω (Except SolveError Ending)}
    (made : p.solveUnder observer watcher limit = some out) :
    out.session.best = p.session.best.seeAll p.settings.trackBest out.journal.scored := by
  cases valid : p.settings.validate with
  | error invalid =>
      rw [Problem.solveUnder_of_invalid valid] at made
      obtain rfl := Option.some.inj made
      rfl
  | ok =>
      obtain ⟨n, before, watcher', earlier, last, proceeds, settings, ended, journal⟩ := p.last_step valid made
      have seen : before.best = p.session.best.seeAll p.settings.trackBest earlier.scored := proceeds.seen valid
      have final := ended.seen
      rw [settings, seen] at final
      rw [journal, Journal.scored_append, Best.seeAll_append]
      exact final

end Runs

theorem Best.score_seeAll_le {best : Best α Float} {pairs : List (Tensor α × Float)}
    (start : best.score.isNaN = false) (number : ∀ pair ∈ pairs, pair.2.isNaN = false) :
    (best.seeAll true pairs).score ≤ best.score ∧ ∀ pair ∈ pairs, (best.seeAll true pairs).score ≤ pair.2 := by
  induction pairs generalizing best with
  | nil => exact ⟨float_le_refl start, nofun⟩
  | cons pair pairs ih =>
      have first : pair.2.isNaN = false := number pair (.head _)
      have rest : ∀ other ∈ pairs, other.2.isNaN = false := fun other member => number other (.tail _ member)
      rw [seeAll_cons, see]
      by_cases better : pair.2 < best.score
      · rw [if_pos ⟨rfl, better⟩]
        have unset : (⟨pair.2, some pair.1⟩ : Best α Float).score.isNaN = false := first
        obtain ⟨low, all⟩ := ih unset rest
        exact ⟨float_le_trans low (float_le_of_lt first start better), List.forall_mem_cons.2 ⟨low, all⟩⟩
      · rw [if_neg fun both => better both.2]
        obtain ⟨low, all⟩ := ih start rest
        have above := float_le_trans low (float_le_of_not_lt start first better)
        exact ⟨low, List.forall_mem_cons.2 ⟨above, all⟩⟩

theorem Best.score_seeAll_le_start (track : Bool) {best : Best α Float} {pairs : List (Tensor α × Float)}
    (start : best.score.isNaN = false) (number : ∀ pair ∈ pairs, pair.2.isNaN = false) :
    (best.seeAll track pairs).score ≤ best.score := by
  cases track with
  | true => exact (score_seeAll_le start number).1
  | false => rw [seeAll_false]; exact float_le_refl start

/-- The best of some samples by their scores: none as long as no score is below infinity, and then the
first one with the least score. Zeros of either sign are the same score. -/
structure IsBest (scored : List (Tensor α × Float)) (best : Best α Float) : Prop where
  least : ∀ pair ∈ scored, best.score ≤ pair.2
  bounded : best.score ≤ 1.0 / 0.0
  absent : (∀ pair ∈ scored, ¬pair.2 < 1.0 / 0.0) → best = ⟨1.0 / 0.0, none⟩
  first : (∃ pair ∈ scored, pair.2 < 1.0 / 0.0) →
    ∃ pair, scored.find? (·.2 == best.score) = some pair ∧ best = ⟨pair.2, some pair.1⟩

theorem IsBest.nil : IsBest ([] : List (Tensor α × Float)) ⟨1.0 / 0.0, none⟩ where
  least := by simp
  bounded := (le_iff_place isNaN_infinity isNaN_infinity).2 (Int.le_refl _)
  absent _ := rfl
  first := by simp

theorem IsBest.replace {scored : List (Tensor α × Float)} {best : Best α Float} {pair : Tensor α × Float}
    (h : IsBest scored best) (number : pair.2.isNaN = false) (better : pair.2 < best.score) :
    IsBest (scored ++ [pair]) ⟨pair.2, some pair.1⟩ := by
  have hb := (number_of_le h.bounded).1
  have lower := (lt_iff_place number hb).1 better
  have below := (le_iff_place hb isNaN_infinity).1 h.bounded
  have larger : ∀ other ∈ scored, other.2.isNaN = false ∧ floatPlace pair.2 < floatPlace other.2 := by
    intro other member
    have le := h.least other member
    have number := (number_of_le le).2
    have le := (le_iff_place hb number).1 le
    exact ⟨number, by omega⟩
  have finite : pair.2 < 1.0 / 0.0 := (lt_iff_place number isNaN_infinity).2 (by omega)
  have same : (pair.2 == pair.2) = true := (beq_iff_place number number).2 rfl
  constructor
  · intro other member
    rcases List.mem_append.1 member with old | new
    · obtain ⟨numbers, lt⟩ := larger other old
      exact (le_iff_place number numbers).2 (by omega)
    · obtain rfl := List.mem_singleton.1 new
      exact (le_iff_place number number).2 (Int.le_refl _)
  · exact (le_iff_place number isNaN_infinity).2 (by omega)
  · intro none
    exact absurd finite (none pair (List.mem_append_right _ (.head _)))
  · intro _
    have fresh : scored.find? (·.2 == pair.2) = none := by
      apply List.find?_eq_none.2
      intro other member equal
      obtain ⟨numbers, lt⟩ := larger other member
      have place := (beq_iff_place numbers number).1 equal
      omega
    refine ⟨pair, ?_, rfl⟩
    rw [List.find?_append, fresh, Option.none_or, List.find?_singleton, if_pos same]

theorem IsBest.keep {scored : List (Tensor α × Float)} {best : Best α Float} {pair : Tensor α × Float}
    (h : IsBest scored best) (number : pair.2.isNaN = false) (worse : ¬pair.2 < best.score) :
    IsBest (scored ++ [pair]) best := by
  have hb := (number_of_le h.bounded).1
  have above : best.score ≤ pair.2 := by
    rw [lt_iff_place number hb] at worse
    exact (le_iff_place hb number).2 (by omega)
  constructor
  · intro other member
    rcases List.mem_append.1 member with old | new
    · exact h.least other old
    · obtain rfl := List.mem_singleton.1 new
      exact above
  · exact h.bounded
  · intro none
    exact h.absent fun other member => none other (List.mem_append_left _ member)
  · intro some
    -- A first score below infinity would have been better than the unset best.
    have earlier : ∃ other ∈ scored, other.2 < 1.0 / 0.0 := by
      by_cases old : ∃ other ∈ scored, other.2 < 1.0 / 0.0
      · exact old
      · have unset := h.absent fun other member lt => old ⟨other, member, lt⟩
        obtain ⟨other, member, lt⟩ := some
        rcases List.mem_append.1 member with old | new
        · exact ⟨other, old, lt⟩
        · obtain rfl := List.mem_singleton.1 new
          rw [unset] at worse
          exact absurd lt worse
    obtain ⟨first, found, eq⟩ := h.first earlier
    refine ⟨first, ?_, eq⟩
    rw [List.find?_append, found, Option.some_or]

theorem IsBest.seeAll {scored pairs : List (Tensor α × Float)} {best : Best α Float} (h : IsBest scored best)
    (number : ∀ pair ∈ pairs, pair.2.isNaN = false) : IsBest (scored ++ pairs) (best.seeAll true pairs) := by
  induction pairs generalizing scored best with
  | nil => simpa using h
  | cons pair pairs ih =>
      have first : pair.2.isNaN = false := number pair (.head _)
      have rest : ∀ other ∈ pairs, other.2.isNaN = false := fun other member => number other (.tail _ member)
      rw [Best.seeAll_cons, Best.see, List.append_cons]
      by_cases better : pair.2 < best.score
      · rw [if_pos ⟨rfl, better⟩]
        exact ih (h.replace first better) rest
      · rw [if_neg fun both => better both.2]
        exact ih (h.keep first better) rest

theorem number_of_mem_scored {journal : Journal P α Float} {pair : Tensor α × Float}
    (h : pair ∈ journal.scored) : pair.2.isNaN = false := by
  obtain ⟨entry, -, scored⟩ := List.mem_filterMap.1 h
  split at scored
  · split at scored
    · cases scored
    · rename_i nan
      obtain rfl := Option.some.inj scored
      rw [Bool.not_eq_true] at nan
      exact nan
  · cases scored

theorem Best.le_of_seen {journal : Journal P α Float} {track : Bool} {best best' : Best α Float}
    (seen : best' = best.seeAll track journal.scored) (start : best.score.isNaN = false) : best'.score ≤ best.score :=
  seen ▸ score_seeAll_le_start track start fun _ => number_of_mem_scored

/-- An operation on a problem, with the samples that it scored while the best-ever sample was kept. -/
inductive Operation : Problem P α Float G σ → List (Tensor α × Float) → Problem P α Float G σ → Prop
  | strategies {p : Problem P α Float G σ} (f : Strategies P α Float G σ → Strategies P α Float G σ) :
      Operation p [] (p.withStrategies f)
  | settings {p : Problem P α Float G σ} (f : Settings → Settings) : Operation p [] (p.withSettings f)
  | params {p : Problem P α Float G σ} (params : P) : Operation p [] (p.withParams params)
  | rng {p : Problem P α Float G σ} (rng : G) : Operation p [] (p.withRng rng)
  | memory {p : Problem P α Float G σ} (memory : σ) : Operation p [] (p.withMemory memory)
  | run {p : Problem P α Float G σ} {ω : Type} {observer : Observer P Float ω} {watcher : ω} {limit : Nat}
      {out : Outcome P α Float G σ ω (Except SolveError Ending)}
      (made : p.solveUnder observer watcher limit = some out) :
      Operation p (if p.settings.trackBest then out.journal.scored else []) { p with session := out.session }

inductive History : Problem P α Float G σ → List (Tensor α × Float) → Prop
  | new (strategies : Strategies P α Float G σ) (params : P) (rng : G) (memory : σ) :
      History (.new strategies params rng memory) []
  | next {p q : Problem P α Float G σ} {scored more : List (Tensor α × Float)} (before : History p scored)
      (operation : Operation p more q) : History q (scored ++ more)

theorem Operation.seen {p q : Problem P α Float G σ} {more : List (Tensor α × Float)}
    (h : Operation p more q) : q.session.best = p.session.best.seeAll true more := by
  cases h with
  | strategies | settings | params | rng | memory => rfl
  | run made =>
      have seen := solveUnder_seen made
      by_cases track : p.settings.trackBest = true
      · rwa [track] at seen ⊢
      · rw [Bool.not_eq_true] at track
        rw [track, Best.seeAll_false] at seen
        rw [track]
        exact seen

theorem Operation.number {p q : Problem P α Float G σ} {more : List (Tensor α × Float)}
    (h : Operation p more q) : ∀ pair ∈ more, pair.2.isNaN = false := by
  cases h with
  | strategies | settings | params | rng | memory => simp
  | run made =>
      intro pair member
      split at member
      · exact number_of_mem_scored member
      · cases member

theorem best_of_history :
    (∀ {p : Problem P α Float G σ} {scored : List (Tensor α × Float)},
      History p scored → IsBest scored p.session.best) ∧
    ∀ {p q : Problem P α Float G σ} {more : List (Tensor α × Float)},
      Operation p more q → more = [] → q.session.best = p.session.best := by
  constructor
  · intro p scored history
    induction history with
    | new => exact .nil
    | next before operation ih =>
        rw [operation.seen]
        exact ih.seeAll operation.number
  · intro p q more operation none
    rw [operation.seen, none, Best.seeAll_nil]

def scoresZeros : Problem Unit Float Float Unit Nat :=
  .new
    { generator := some fun _ rng memory => (.ok (Tensor.vector [1.5, 2.5, 3.5]), rng, memory)
      scorer := some fun _ calls =>
        (if calls = 0 then .ok 0.0 else if calls = 1 then .ok (-0.0) else .error (.custom "out of calls"), calls + 1) }
    () () 0

theorem best_of_scoresZeros :
    let p := scoresZeros.withSettings fun _ => { numSamples := 3, numElite := 1, trackBest := true }
    ∃ out, p.solveUnder .silent () 1 = some out ∧ out.session.state.bestScore = 0.0 ∧
      out.journal.scored.length = 2 ∧ IsBest out.journal.scored out.session.best ∧
      p.session.best = scoresZeros.session.best := by
  intro p
  have settings : Operation scoresZeros [] p := .settings _
  have leaves : (p.solveUnder .silent () 1).map
      (fun out => (out.session.state.bestScore, out.journal.scored.length)) = some (0.0, 2) := by decide +kernel
  obtain ⟨out, made, results⟩ := Option.map_eq_some_iff.1 leaves
  obtain ⟨score, length⟩ := Prod.mk.inj results
  have history : History p [] := (History.new _ _ _ _).next settings
  have ran := history.next (.run made)
  exact ⟨out, made, score, length, best_of_history.1 ran, best_of_history.2 settings rfl⟩

end CrossEntropy
