import CrossEntropy.Moments
import CrossEntropy.Proofs.FailedRuns
import CrossEntropy.Proofs.SortedScores
import CrossEntropy.Proofs.StrategyCalls

namespace CrossEntropy
variable {P α G σ ω : Type}

/-- What an iteration reads of a batch and of its scores is there: the first axis, the scores of the two ranks and the
rows that are elite. -/
structure Readable (c : Settings) (batch : Tensor α) (scores : List Float) : Prop where
  axis : batch.shape.head? = some c.numSamples
  scored : scores.length = c.numSamples
  lowest : 0 < (Elite.sorted scores).length
  asked : 0 < c.numElite
  worst : c.numElite - 1 < (Elite.sorted scores).length
  rows : ∀ bound, ∀ row ∈ Elite.admitted scores bound, row < c.numSamples

theorem Tensor.extent_zero_eq (a : Tensor α) : a.extent 0 = a.shape.head?.getD 0 := by
  rw [extent, List.head?_eq_getElem?]

theorem Tensor.head?_eq_extent {a : Tensor α} (pos : 0 < a.extent 0) : a.shape.head? = some (a.extent 0) := by
  rw [extent_zero_eq] at pos ⊢
  cases shape : a.shape.head? with
  | none =>
      rw [shape] at pos
      cases pos
  | some n => rfl

theorem Elite.length_within {S β : Type} [Score S] {bound : S} {entries : List β} {scores : List S}
    (same : entries.length = scores.length) :
    (within bound entries scores).length = scores.countP fun score => score ≤ bound := by
  have values : (entries.zip scores).map Prod.snd = scores := List.map_snd_zip (Nat.le_of_eq same.symm)
  conv_rhs => rw [← values, List.countP_map]
  rw [within, List.length_map, ← List.countP_eq_length_filter]
  rfl

section Iterations
open Iteration
variable {strategies : Strategies P α Float G σ} {s t u : Session P α Float G σ} {batch chosen : Tensor α}
  {scores : List Float} {elite : Elite Float} {journal : Journal P α Float}

theorem Iteration.scores_of_scoreBatch (made : scoreBatch strategies batch s = (.ok scores, t, journal)) :
    ∃ scorer last, Scores scorer s.memory batch.rows scores last := by
  rcases scores_or_fails strategies s batch with ⟨scorer, scores', last, installed, all⟩ | ⟨e, u, wrote, fails⟩
  · rw [scoreBatch_of_scores installed all] at made
    obtain rfl : scores' = scores := Except.ok.inj (Prod.mk.inj made).1
    exact ⟨scorer, last, all⟩
  · rw [scoreBatch_of_scoreFails fails] at made
    cases made

theorem Iteration.Draws.head? (valid : s.state.settings.validate = .ok ()) (drawn : Draws strategies s batch t) :
    batch.shape.head? = some s.state.settings.numSamples := by
  obtain ⟨pos, le⟩ := Settings.validate_eq_ok valid
  rw [← drawn.sized] at le ⊢
  exact Tensor.head?_eq_extent (Nat.lt_of_lt_of_le pos le)

theorem Iteration.Draws.readable {scorer : Scorer α Float σ} {last : σ} (valid : s.state.settings.validate = .ok ())
    (drawn : Draws strategies s batch t) (all : Scores scorer t.memory batch.rows scores last) :
    Readable s.state.settings batch scores := by
  obtain ⟨pos, le⟩ := Settings.validate_eq_ok valid
  have count : scores.length = s.state.settings.numSamples :=
    all.length_eq.trans (batch.length_rows.trans drawn.sized)
  have sorted := (Elite.length_sorted scores).trans count
  refine ⟨drawn.head? valid, count, by omega, pos, by omega, fun bound row member => ?_⟩
  obtain ⟨_, entry, -⟩ := Elite.mem_admitted_iff.1 member
  exact count ▸ (List.getElem?_eq_some_iff.1 entry).1

theorem Iteration.Selects.bounds (selects : Selects strategies s batch scores elite chosen t journal) :
    s.state.settings.numElite ≤ chosen.extent 0 ∧ chosen.extent 0 ≤ s.state.settings.numSamples := by
  have selected := selects.selected
  have extent : chosen.extent 0 = elite.indices.length := by
    rw [← chosen.length_rows, selects.chosen.1, Elite.length_within selects.length_eq.symm,
      Elite.indices_of_select? selected, Elite.length_admitted]
  rw [extent]
  exact ⟨(Elite.bounds_of_select? (agree_of_numbers selects.number) selected).2,
    selects.count ▸ Elite.length_le_of_select? selected⟩

theorem Iteration.Calls.estimated {entry : Entry P α Float} {shown : State P Float}
    (valid : s.state.settings.validate = .ok ()) (call : Calls strategies s u entry)
    (estimate : entry = .estimate chosen shown) :
    max 1 s.state.settings.numElite ≤ chosen.extent 0 ∧ chosen.extent 0 ≤ s.state.settings.numSamples := by
  cases call with
  | generator | scorer | updater => cases estimate
  | estimator selects =>
      obtain ⟨rfl, -⟩ := Entry.estimate.inj estimate
      obtain ⟨enough, atMost⟩ := selects.bounds
      exact ⟨Nat.max_le.2 ⟨Nat.le_trans (Settings.validate_eq_ok valid).1 enough, enough⟩, atMost⟩

end Iterations

theorem Tensor.moments?_isSome [Scalar α] {a : Tensor α} (pos : 0 < a.extent 0) : a.moments?.isSome = true := by
  rw [moments?, if_neg (Nat.ne_of_gt pos)]
  rfl

namespace Problem
variable {p : Problem P α Float G σ} {observer : Observer P Float ω} {watcher watcher' : ω} {n : Nat}
  {s : Session P α Float G σ} {journal : Journal P α Float}

theorem ending_ne_outOfRange {limit : Nat} {out : Outcome P α Float G σ ω (Except SolveError Ending)}
    (made : p.solveUnder observer watcher limit = some out) : out.ending ≠ .error .outOfRange :=
  fun failed => by
    obtain ⟨before, _, _, _, _, _, leaves, _⟩ := solveUnder_error made failed
    exact leaves

theorem readable_of_draw {batch : Tensor α} {t u : Session P α Float G σ} {drew wrote : Journal P α Float}
    {scores : List Float} (valid : p.settings.validate = .ok ())
    (proceeds : Proceeds p.strategies observer n p.fresh watcher s watcher' journal)
    (drawn : Iteration.draw p.strategies (s.withScores none none) = (.ok batch, t, drew))
    (made : Iteration.scoreBatch p.strategies batch t = (.ok scores, u, wrote)) :
    Readable p.settings batch scores := by
  have settings : (s.withScores none none).state.settings = p.settings := proceeds.settings valid
  have settled := (congrArg Settings.validate settings).trans valid
  obtain ⟨scorer, last, all⟩ := Iteration.scores_of_scoreBatch made
  exact settings ▸ (Iteration.draws_of_draw drawn).readable settled all

theorem ends_at_batch {generator : Generator P α Float G σ} {batch : Tensor α} {rng : G} {memory : σ}
    (valid : p.settings.validate = .ok ())
    (proceeds : Proceeds p.strategies observer n p.fresh watcher s watcher' journal)
    (installed : p.strategies.generator = some generator)
    (returned : generator (s.withScores none none).state s.rng s.memory = (.ok batch, rng, memory))
    (unusable : batch.shape.head? ≠ some p.settings.numSamples) {limit : Nat} (lt : n < limit) :
    p.solveUnder observer watcher limit = some
      { ending := .error (.batchSize p.settings.numSamples (batch.shape.head?.getD 0))
        session := { s.withScores none none with rng, memory }
        watcher := watcher'
        journal := journal ++ [.generate (s.withScores none none).state] } := by
  have settings : (s.withScores none none).state.settings = p.settings := proceeds.settings valid
  -- A batch without axes counts as empty, and the settings ask for one sample at least.
  have missized : batch.extent 0 ≠ (s.withScores none none).state.settings.numSamples := by
    rw [settings]
    intro sized
    obtain ⟨pos, le⟩ := Settings.validate_eq_ok valid
    have first := Tensor.head?_eq_extent (a := batch) (by omega)
    exact unusable (first.trans (congrArg some sized))
  have failed : Step p.strategies observer s watcher' _ := .fails (.undrawn (.missized installed returned missized))
  have final := step_of_step failed
  rw [settings, Tensor.extent_zero_eq] at final
  rw [solveUnder_of_valid valid]
  exact runWithin_eq_some_iff.2 ⟨n, s, watcher', journal, _, lt, proceeds, final, rfl⟩

theorem estimated_within {chosen : Tensor α} {shown : State P Float}
    (writes : p.Writes observer watcher journal) (member : .estimate chosen shown ∈ journal) :
    max 1 p.settings.numElite ≤ chosen.extent 0 ∧ chosen.extent 0 ≤ p.settings.numSamples := by
  obtain ⟨u, call, -⟩ := writes.exists_calls member rfl
  generalize made : Entry.estimate chosen shown = entry at call
  cases call with
  | stopRule => cases made
  | @iteration n s _ _ _ _ valid proceeds call =>
      have settings : s.state.settings = p.settings := proceeds.settings valid
      exact settings ▸ call.estimated (settings ▸ valid) made.symm

end Problem

/-- No iteration of a run reads what is not there, whatever batches the generator returns. A batch of another size than
asked for, or without a first axis, ends the run before it is scored. The estimator is given at least as many samples
as are elite, which is one or more, and at most the whole batch; samples of numbers then have moments. -/
theorem reads_in_range (p : Problem P α Float G σ) (observer : Observer P Float ω) (watcher : ω) :
    (∀ {limit out}, p.solveUnder observer watcher limit = some out → out.ending ≠ .error .outOfRange) ∧
    (∀ {n s watcher' journal batch t drew}, p.settings.validate = .ok () →
      Proceeds p.strategies observer n p.fresh watcher s watcher' journal →
      Iteration.draw p.strategies (s.withScores none none) = (.ok batch, t, drew) →
      batch.shape.head? = some p.settings.numSamples ∧
        ∀ {scores u wrote}, Iteration.scoreBatch p.strategies batch t = (.ok scores, u, wrote) →
          Readable p.settings batch scores) ∧
    (∀ {n s watcher' journal generator batch rng memory}, p.settings.validate = .ok () →
      Proceeds p.strategies observer n p.fresh watcher s watcher' journal →
      p.strategies.generator = some generator →
      generator (s.withScores none none).state s.rng s.memory = (.ok batch, rng, memory) →
      batch.shape.head? ≠ some p.settings.numSamples → ∀ {limit}, n < limit →
        p.solveUnder observer watcher limit = some
          { ending := .error (.batchSize p.settings.numSamples (batch.shape.head?.getD 0))
            session := { s.withScores none none with rng, memory }
            watcher := watcher'
            journal := journal ++ [.generate (s.withScores none none).state] }) ∧
    ∀ {journal chosen shown}, p.Writes observer watcher journal → .estimate chosen shown ∈ journal →
      max 1 p.settings.numElite ≤ chosen.extent 0 ∧ chosen.extent 0 ≤ p.settings.numSamples ∧
        ∀ [Scalar α], chosen.moments?.isSome = true := by
  refine ⟨Problem.ending_ne_outOfRange, ?_, Problem.ends_at_batch, ?_⟩
  · intro n s watcher' journal batch t drew valid proceeds drawn
    have settings : (s.withScores none none).state.settings = p.settings := proceeds.settings valid
    have settled := (congrArg Settings.validate settings).trans valid
    have axis := (Iteration.draws_of_draw drawn).head? settled
    exact ⟨axis.trans (congrArg (some ·.numSamples) settings), Problem.readable_of_draw valid proceeds drawn⟩
  · intro journal chosen shown writes member
    obtain ⟨enough, atMost⟩ := Problem.estimated_within writes member
    exact ⟨enough, atMost, Tensor.moments?_isSome (Nat.le_trans (Nat.le_max_left 1 _) enough)⟩

def collapses : Generator Nat Float Float Unit Unit := fun shown rng memory =>
  (.ok (if shown.numIters = 0 then .vector [1.5] else .scalar 1.5), rng, memory)

def collapsing : Problem Nat Float Float Unit Unit where
  strategies :=
    { generator := some collapses
      scorer := some fun _ memory => (.ok 2.5, memory)
      estimator := some fun _ shown memory => (.ok (shown.params + 1), memory) }
  session :=
    { state := { State.initial 0 with settings := { numSamples := 1, numElite := 1, maxIters := some 5 } }
      rng := ()
      memory := ()
      bestSample := none }

theorem reads_of_collapsing :
    (∃ batch scores, Iteration.Draws collapsing.strategies (collapsing.fresh.withScores none none) batch
        (collapsing.fresh.withScores none none) ∧ Readable collapsing.settings batch scores) ∧
      ∃ s journal chosen shown, Proceeds collapsing.strategies .silent 1 collapsing.fresh () s () journal ∧
        .estimate chosen shown ∈ journal ∧ chosen.extent 0 = 1 ∧ chosen.moments?.isSome = true ∧
        ∃ out, collapsing.solveUnder .silent () 2 = some out ∧ out.ending = .error (.batchSize 1 0) ∧
          out.ending ≠ .error .outOfRange ∧
          out.journal = journal ++ [.generate (s.withScores none none).state] := by
  obtain ⟨inside, reads, unusable, estimates⟩ := reads_in_range collapsing .silent ()
  constructor
  · have drawn : Iteration.Draws collapsing.strategies (collapsing.fresh.withScores none none) (.vector [1.5])
        (collapsing.fresh.withScores none none) := .intro rfl rfl rfl
    exact ⟨_, [2.5], drawn, (reads rfl .refl (Iteration.draw_of_draws drawn)).2 rfl⟩
  · rcases first : step collapsing.strategies .silent collapsing.fresh () with ⟨ending, s, nobody, journal⟩
    have goes : (step collapsing.strategies .silent collapsing.fresh ()).ending.isNone = true ∧
        (step collapsing.strategies .silent collapsing.fresh ()).session.state.numIters = 1 ∧
        (step collapsing.strategies .silent collapsing.fresh ()).journal.any (fun entry =>
          match entry with | .estimate _ _ => true | _ => false) = true := by decide +kernel
    rw [first] at goes
    obtain ⟨ongoing, counted, called⟩ := goes
    obtain rfl : ending = none := Option.isNone_iff_eq_none.1 ongoing
    obtain ⟨entry, member, estimate⟩ := List.any_eq_true.1 called
    have proceeds : Proceeds collapsing.strategies .silent 1 collapsing.fresh () s () (journal ++ []) :=
      .next first .refl
    rw [List.append_nil] at proceeds
    cases entry with
    | estimate chosen shown =>
        obtain ⟨enough, atMost, moments⟩ := estimates (.going rfl proceeds) member
        have late : (s.withScores none none).state.numIters ≠ 0 := by
          rw [show (s.withScores none none).state.numIters = 1 from counted]
          decide
        have returned : collapses (s.withScores none none).state s.rng s.memory =
            (.ok (.scalar 1.5), s.rng, s.memory) := by rw [collapses, if_neg late]
        have ends := unusable rfl proceeds rfl returned nofun (show 1 < 2 by decide)
        exact ⟨s, journal, chosen, shown, proceeds, member, Nat.le_antisymm atMost enough, moments, _, ends, rfl,
          inside ends, rfl⟩
    | generate | score | update | observe | decideStop | log => cases estimate

end CrossEntropy
