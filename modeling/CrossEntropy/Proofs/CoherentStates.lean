import CrossEntropy.Proofs.BestEver
import CrossEntropy.Proofs.EliteRanks
import CrossEntropy.Proofs.Lifetime
import CrossEntropy.Proofs.StrategyCalls

/-!
What holds of every state of a problem (`states_are_coherent`): between runs, however they ended, and at every call
of a strategy. An iteration first clears the scores and later sets both at once; the best-ever score and its sample
are replaced together.
-/

namespace CrossEntropy
variable {P α G σ ω : Type}

/-- The scores that a state holds: none yet, or the lowest one and the worst elite one of a batch of numbers. -/
inductive PairedScores : Option Float → Option Float → Prop
  | unset : PairedScores none none
  | set {low bound : Float} (lowNumber : low.isNaN = false) (boundNumber : bound.isNaN = false) (le : low ≤ bound) :
      PairedScores (some low) (some bound)

structure Best.Coherent (best : Best α Float) : Prop where
  number : best.score.isNaN = false
  kept : best.sample.isSome = true ↔ best.score < 1.0 / 0.0

structure Session.Coherent (s : Session P α Float G σ) : Prop where
  scores : PairedScores s.state.minScore s.state.eliteScore
  best : s.best.Coherent

/-- These samples, with their scores, are the ones scored since the generator was last called. -/
def Journal.LastBatch {S : Type} [Score S] (journal : Journal P α S) (pairs : List (Tensor α × S)) : Prop :=
  ∃ (earlier rest : Journal P α S) (shown : State P S), journal = earlier ++ .generate shown :: rest ∧
    (∀ later, .generate later ∉ rest) ∧ rest.scored = pairs

namespace Best.Coherent
variable {best : Best α Float}

theorem see (h : best.Coherent) (track : Bool) {pair : Tensor α × Float} (number : pair.2.isNaN = false) :
    (best.see track pair).Coherent := by
  rw [Best.see]
  split
  · next better =>
    have lower := (lt_iff_place number h.number).1 better.2
    have below := (le_iff_place h.number isNaN_infinity).1 (float_le_infinity h.number)
    have finite : pair.2 < 1.0 / 0.0 := (lt_iff_place number isNaN_infinity).2 (Int.lt_of_lt_of_le lower below)
    exact ⟨number, iff_of_true rfl finite⟩
  · exact h

theorem seeAll (h : best.Coherent) (track : Bool) {pairs : List (Tensor α × Float)}
    (number : ∀ pair ∈ pairs, pair.2.isNaN = false) : (best.seeAll track pairs).Coherent := by
  induction pairs generalizing best with
  | nil => exact h
  | cons pair pairs ih =>
      have first : pair.2.isNaN = false := number pair (.head _)
      exact ih (h.see track first) fun other member => number other (.tail _ member)

end Best.Coherent

variable {strategies : Strategies P α Float G σ} {observer : Observer P Float ω} {s t u : Session P α Float G σ}
  {watcher watcher' : ω} {n : Nat} {journal : Journal P α Float}

section Iterations
open Iteration
variable {batch chosen : Tensor α} {scores : List Float} {elite : Elite Float}
  {result : Except SolveError (Event P Float)}

theorem Iteration.Selects.paired (h : Selects strategies s batch scores elite chosen t journal) :
    PairedScores t.state.minScore t.state.eliteScore := by
  have number : ∀ score ∈ scores, score.isNaN = false := h.number
  obtain ⟨low, bound⟩ := Elite.ranks_of_select? h.selected
  have le := (Elite.bounds_of_select? (agree_of_numbers number) h.selected).1
  rw [h.state]
  exact .set (number _ (Elite.mem_of_ofRank? low)) (number _ (Elite.mem_of_ofRank? bound)) le

theorem Iteration.Draws.paired (h : Draws strategies (s.withScores none none) batch t) :
    PairedScores t.state.minScore t.state.eliteScore := by
  rw [h.state]
  exact .unset

theorem Iteration.Selects.coherent (h : Selects strategies s batch scores elite chosen t journal)
    (best : s.best.Coherent) : t.Coherent := by
  refine ⟨h.paired, ?_⟩
  rw [h.best]
  exact best.seeAll _ fun pair member => h.number _ (List.of_mem_zip member).2

theorem Iteration.Calls.coherent {entry : Entry P α Float} (h : Calls strategies s u entry) (best : s.best.Coherent) :
    u.Coherent := by
  cases h with
  | generator => exact ⟨.unset, best⟩
  | scorer drawn installed inside before =>
      refine ⟨drawn.paired, ?_⟩
      refine Best.Coherent.seeAll (drawn.best ▸ best) _ fun pair member => ?_
      exact before.number _ (List.of_mem_zip member).2
  | estimator selects => exact selects.coherent best
  | updater selects estimates =>
      have coherent := selects.coherent best
      exact ⟨estimates.state ▸ coherent.scores, estimates.best ▸ coherent.best⟩

theorem Iteration.Course.coherent (h : Course strategies s result t journal) (best : s.best.Coherent) : t.Coherent := by
  refine ⟨?_, h.seen ▸ best.seeAll _ fun pair => number_of_mem_scored⟩
  cases h with
  | undrawn fails =>
      rw [fails.state]
      exact .unset
  | unscored drawn fails =>
      have paired := drawn.paired
      cases fails with
      | missing | rejected => exact paired
  | unestimated selects fails => exact fails.state ▸ selects.paired
  | unupdated selects estimates fails => exact fails.state ▸ estimates.state ▸ selects.paired
  | completed selects estimates updates =>
      have paired := selects.paired
      rw [← estimates.state, ← updates.state] at paired
      exact paired

end Iterations

theorem Step.coherent {made : Outcome P α Float G σ ω (Option (Except SolveError Ending))}
    (h : Step strategies observer s watcher made) (best : s.best.Coherent) : made.session.Coherent := by
  obtain ⟨_, t, _, course, state, -⟩ := h.course
  refine ⟨?_, h.seen ▸ best.seeAll _ fun pair => number_of_mem_scored⟩
  rw [state]
  exact (course.coherent best).scores

theorem Proceeds.coherent (h : Proceeds strategies observer n s watcher t watcher' journal)
    (valid : s.state.settings.validate = .ok ()) (coherent : s.Coherent) : t.Coherent := by
  induction h with
  | refl => exact coherent
  | next first _ ih =>
      have course := (step_eq_iff valid).1 first
      exact ih (course.settings.symm ▸ valid) (course.coherent coherent.best)

namespace Problem
variable {p : Problem P α Float G σ} {entry : Entry P α Float} {limit : Nat}
  {out : Outcome P α Float G σ ω (Except SolveError Ending)}

theorem fresh_coherent (coherent : p.session.Coherent) : p.fresh.Coherent :=
  ⟨coherent.scores, coherent.best⟩

theorem Calls.coherent (h : p.Calls observer watcher u entry) (coherent : p.session.Coherent) : u.Coherent := by
  cases h with
  | iteration valid proceeds call => exact call.coherent (proceeds.coherent valid (fresh_coherent coherent)).best
  | stopRule valid proceeds completed =>
      have course := (Iteration.iterate_eq_iff (proceeds.settled valid)).1 completed
      exact course.coherent (proceeds.coherent valid (fresh_coherent coherent)).best

theorem coherent_of_run (made : p.solveUnder observer watcher limit = some out) (coherent : p.session.Coherent) :
    out.session.Coherent := by
  cases valid : p.settings.validate with
  | error invalid =>
      rw [solveUnder_of_invalid valid] at made
      obtain rfl := Option.some.inj made
      exact coherent
  | ok =>
      obtain ⟨n, s, watcher', earlier, last, proceeds, -, final, -⟩ := p.last_step valid made
      exact final.coherent (proceeds.coherent valid (fresh_coherent coherent)).best

end Problem

theorem History.coherent {p : Problem P α Float G σ} {scored : List (Tensor α × Float)} (h : History p scored) :
    p.session.Coherent := by
  induction h with
  | new =>
      have infinite : ¬(1.0 / 0.0 : Float) < 1.0 / 0.0 := by decide +kernel
      exact ⟨.unset, isNaN_infinity, iff_of_false nofun infinite⟩
  | next before operation ih =>
      cases operation with
      | strategies | settings | params | rng | memory => exact ⟨ih.scores, ih.best⟩
      | run made => exact Problem.coherent_of_run made ih

theorem Journal.generate_notMem_scoring (shown : State P Float) (track : Bool) (best : Best α Float) (index : Nat)
    (pairs : List (Tensor α × Float)) : .generate shown ∉ Journal.scoring track best index pairs := by
  intro member
  have called : .generate shown ∈ Journal.calls (Journal.scoring track best index pairs) :=
    List.mem_filter.2 ⟨member, rfl⟩
  rw [Journal.calls_scoring] at called
  obtain ⟨_, _, same⟩ := List.mem_map.1 called
  cases same

theorem Journal.LastBatch.append {pairs : List (Tensor α × Float)} {quiet : Journal P α Float}
    (h : journal.LastBatch pairs) (drawn : ∀ later, .generate later ∉ quiet) (scored : quiet.scored = []) :
    Journal.LastBatch (journal ++ quiet) pairs := by
  obtain ⟨earlier, rest, shown, rfl, none, rfl⟩ := h
  refine ⟨earlier, rest ++ quiet, shown, by simp, fun later member => ?_, ?_⟩
  · rcases List.mem_append.1 member with before | after
    · exact none later before
    · exact drawn later after
  · rw [scored_append, scored, List.append_nil]

theorem Journal.LastBatch.behind {pairs : List (Tensor α × Float)} (h : journal.LastBatch pairs)
    (before : Journal P α Float) : Journal.LastBatch (before ++ journal) pairs := by
  obtain ⟨earlier, rest, shown, rfl, none, rfl⟩ := h
  exact ⟨before ++ earlier, rest, shown, (List.append_assoc ..).symm, none, rfl⟩

structure State.Ranks (s : State P Float) (pairs : List (Tensor α × Float)) : Prop where
  complete : pairs.length = s.settings.numSamples
  lowest : ∃ low, s.minScore = some low ∧ Elite.HasRank (pairs.map Prod.snd) 1 low
  worst : ∃ bound, s.eliteScore = some bound ∧ Elite.HasRank (pairs.map Prod.snd) s.settings.numElite bound

section Iterations
open Iteration
variable {batch chosen : Tensor α} {scores : List Float} {elite : Elite Float}

theorem Iteration.Selects.lastBatch (h : Selects strategies s batch scores elite chosen t journal) :
    journal.LastBatch (batch.rows.zip scores) := by
  cases h with
  | intro drawn installed all =>
      exact ⟨[], scoring _ 0 _, _, rfl, fun later => Journal.generate_notMem_scoring later _ _ 0 _, all.scored _ _ 0⟩

theorem Iteration.Selects.ranks (h : Selects strategies s batch scores elite chosen t journal) :
    t.state.Ranks (batch.rows.zip scores) := by
  have state := h.state
  have values : (batch.rows.zip scores).map Prod.snd = scores := List.map_snd_zip (Nat.le_of_eq h.length_eq)
  obtain ⟨low, bound⟩ := Elite.ranks_of_select? h.selected
  constructor
  · rw [List.length_zip, ← h.length_eq, Nat.min_self, h.count, state]
  · rw [state, values]
    exact ⟨_, rfl, Elite.hasRank_of_ofRank? h.number low⟩
  · rw [state, values]
    exact ⟨_, rfl, Elite.hasRank_of_ofRank? h.number bound⟩

theorem Iteration.Course.lastBatch {event : Event P Float} (h : Course strategies s (.ok event) t journal) :
    ∃ pairs, journal.LastBatch pairs ∧ t.state.Ranks pairs := by
  cases h with
  | completed selects estimates updates =>
      have ranks := selects.ranks
      rw [← estimates.state, ← updates.state] at ranks
      refine ⟨_, selects.lastBatch.append ?_ ?_, ranks.complete, ranks.lowest, ranks.worst⟩
      · cases updates <;> simp
      · cases updates <;> rfl

end Iterations

theorem Journal.LastBatch.reported {pairs : List (Tensor α × Float)} (h : journal.LastBatch pairs)
    (event : Event P Float) (verdict : Verdict) (notes : List (LogRecord Float)) :
    Journal.LastBatch (reported journal event verdict notes) pairs :=
  h.append (by simp) (Journal.scored_map_log notes)

theorem Decides.generate_notMem {stop : Bool} (h : Decides strategies s stop t journal) (later : State P Float) :
    .generate later ∉ journal := by
  cases h <;> simp

theorem Step.lastBatch {made : Outcome P α Float G σ ω (Option (Except SolveError Ending))} {ending : Ending}
    (h : Step strategies observer s watcher made) (ended : made.ending = some (.ok ending)) :
    1 ≤ made.session.state.numIters ∧ ∃ pairs, made.journal.LastBatch pairs ∧ made.session.state.Ranks pairs := by
  cases h with
  | fails | undecided | goesOn => cases ended
  | @stopped event _ _ notes _ course =>
      obtain ⟨pairs, last, ranks⟩ := course.lastBatch
      refine ⟨course.reports.1 ▸ Nat.le_add_left 1 _, pairs, ?_, ranks⟩
      exact (last.reported event .stop notes).append (by simp) rfl
  | @ends event _ _ notes _ _ _ course _ decides =>
      obtain ⟨pairs, last, ranks⟩ := course.lastBatch
      have counted := course.reports.1
      rw [← decides.state] at ranks counted
      refine ⟨counted ▸ Nat.le_add_left 1 _, pairs, ?_, ranks⟩
      have decided := (last.reported event .proceed notes).append decides.generate_notMem decides.scored
      exact decided.append (by simp) rfl

theorem Problem.lastBatch_of_run {p : Problem P α Float G σ} {limit : Nat}
    {out : Outcome P α Float G σ ω (Except SolveError Ending)} {ending : Ending}
    (made : p.solveUnder observer watcher limit = some out) (ended : out.ending = .ok ending) :
    1 ≤ out.session.state.numIters ∧ ∃ pairs, out.journal.LastBatch pairs ∧ out.session.state.Ranks pairs := by
  cases valid : p.settings.validate with
  | error invalid =>
      rw [solveUnder_of_invalid valid] at made
      obtain rfl := Option.some.inj made
      cases ended
  | ok =>
      obtain ⟨n, s, watcher', earlier, last, -, -, final, whole⟩ := p.last_step valid made
      obtain ⟨counted, pairs, batch, ranks⟩ := final.lastBatch (congrArg some ended)
      exact ⟨counted, pairs, whole ▸ batch.behind earlier, ranks⟩

theorem states_are_coherent {p : Problem P α Float G σ} {scored : List (Tensor α × Float)}
    (history : History p scored) :
    p.session.Coherent ∧
    ∀ {ω : Type} (observer : Observer P Float ω) (watcher : ω),
      (∀ {u : Session P α Float G σ} {entry : Entry P α Float}, p.Calls observer watcher u entry → u.Coherent) ∧
      (∀ {journal : Journal P α Float} {entry : Entry P α Float}, p.Writes observer watcher journal → entry ∈ journal →
        entry.ofStrategy = true →
        ∃ u, p.Calls observer watcher u entry ∧ ∀ shown, entry.shown? = some shown → u.state = shown) ∧
      ∀ {limit : Nat} {out : Outcome P α Float G σ ω (Except SolveError Ending)} {ending : Ending},
        p.solveUnder observer watcher limit = some out → out.ending = .ok ending →
        1 ≤ out.session.state.numIters ∧
          ∃ pairs, out.journal.LastBatch pairs ∧ out.session.state.Ranks pairs := by
  have coherent := history.coherent
  refine ⟨coherent, fun observer watcher => ⟨fun call => call.coherent coherent, ?_, ?_⟩⟩
  · intro journal entry writes member strategy
    exact writes.exists_calls member strategy
  · intro limit out ending made ended
    exact Problem.lastBatch_of_run made ended

def stumbling : Problem Nat Float Float Unit Nat :=
  .new
    { generator := some fun _ rng memory => (.ok (Tensor.vector [1.5]), rng, memory)
      scorer := some fun _ calls => (if calls = 1 then .error (.custom "stumbled") else .ok 2.5, calls + 1)
      estimator := some fun _ shown memory => (.ok (shown.params + 1), memory) }
    0 () 0

theorem coherent_of_stumbling :
    let p := stumbling.withSettings fun _ => { numSamples := 1, numElite := 1, maxIters := some 2, trackBest := true }
    ∃ out, p.solveUnder .silent () 2 = some out ∧
      let q : Problem Nat Float Float Unit Nat := { p with session := out.session }
      q.session.Coherent ∧ q.state.minScore = none ∧ q.state.bestScore = 2.5 ∧
      ∃ out', q.solveUnder .silent () 2 = some out' ∧ out'.ending = .ok .stopRule ∧
        (∃ entry ∈ out'.journal, entry.ofStrategy = true ∧ ∃ u, q.Calls .silent () u entry ∧ u.Coherent) ∧
        1 ≤ out'.session.state.numIters ∧
        ∃ pairs, out'.journal.LastBatch pairs ∧ out'.session.state.Ranks pairs := by
  intro p
  have leaves : (p.solveUnder .silent () 2).bind (fun out =>
      (({ p with session := out.session } : Problem Nat Float Float Unit Nat).solveUnder .silent () 2).map fun out' =>
        (out.session.state.minScore, out.session.state.bestScore, out'.ending.toOption)) =
      some (none, 2.5, some .stopRule) := by decide +kernel
  obtain ⟨out, made, results⟩ := Option.bind_eq_some_iff.1 leaves
  obtain ⟨out', made', results⟩ := Option.map_eq_some_iff.1 results
  simp only [Prod.mk.injEq] at results
  obtain ⟨cleared, best, stopped⟩ := results
  have ended : out'.ending = .ok .stopRule := by
    cases result : out'.ending with
    | error => rw [result] at stopped; cases stopped
    | ok => rw [result] at stopped; exact congrArg Except.ok (Option.some.inj stopped)
  have history : History p [] := (History.new _ _ _ _).next (.settings _)
  obtain ⟨coherent, runs⟩ := states_are_coherent (history.next (.run made))
  obtain ⟨calls, writes, ends⟩ := runs .silent ()
  obtain ⟨counted, pairs, batch, ranks⟩ := ends made' ended
  obtain ⟨earlier, rest, shown, journal, -⟩ := id batch
  have drawn : .generate shown ∈ out'.journal := journal ▸ List.mem_append_right earlier (.head _)
  obtain ⟨u, call, -⟩ := writes (.ended made') drawn rfl
  exact ⟨out, made, coherent, cleared, best, out', made', ended, ⟨_, drawn, rfl, u, call, calls call⟩, counted, pairs,
    batch, ranks⟩

end CrossEntropy
