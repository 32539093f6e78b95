import CrossEntropy.Proofs.Run

namespace CrossEntropy
variable {P α S G σ ω : Type} [Score S] {strategies : Strategies P α S G σ} {observer : Observer P S ω}
  {s t : Session P α S G σ} {watcher watcher' : ω} {n m : Nat} {journal : Journal P α S}

theorem Step.counts {made : Outcome P α S G σ ω (Option (Except SolveError Ending))}
    (h : Step strategies observer s watcher made) :
    made.session.state.numIters = s.state.numIters + made.journal.events.length ∧
      made.journal.events.length ≤ 1 := by
  cases h with
  | fails course =>
      rw [course.events]
      exact ⟨course.uncounted, Nat.zero_le 1⟩
  | stopped course =>
      rw [Journal.events_append, reported_events course.events]
      exact ⟨course.reports.1, Nat.le_refl 1⟩
  | undecided course =>
      rw [reported_events course.events]
      exact ⟨course.reports.1, Nat.le_refl 1⟩
  | ends course answer decides =>
      rw [Journal.events_append, Journal.events_append, reported_events course.events, decides.events,
        decides.state]
      exact ⟨course.reports.1, Nat.le_refl 1⟩
  | goesOn course answer decides =>
      rw [Journal.events_append, reported_events course.events, decides.events, decides.state]
      exact ⟨course.reports.1, Nat.le_refl 1⟩

omit [Score S] in
theorem Decides.limit_iff {stop : Bool} (h : Decides strategies s stop t journal)
    (absent : strategies.stopRule = none) (set : s.state.settings.maxIters = some m) :
    stop = true ↔ m ≤ t.state.numIters := by
  cases h with
  | rule installed => rw [absent] at installed; cases installed
  | limit _ set' =>
      obtain rfl : m = _ := Option.some.inj (set.symm.trans set')
      exact decide_eq_true_iff

theorem Step.below_limit (h : Step strategies observer s watcher ⟨none, t, watcher', journal⟩)
    (absent : strategies.stopRule = none) (set : s.state.settings.maxIters = some m) :
    t.state.numIters < m := by
  cases h with
  | goesOn course answer decides =>
      have undecided := decides.limit_iff absent (course.settings.symm ▸ set)
      exact Nat.lt_of_not_le fun le => Bool.noConfusion (undecided.2 le)

theorem Step.reached (h : Step strategies observer s watcher ⟨some (.ok .stopRule), t, watcher', journal⟩)
    (absent : strategies.stopRule = none) (set : s.state.settings.maxIters = some m) :
    m ≤ t.state.numIters ∧ journal.events.length = 1 := by
  have counted := h.counts.1
  cases h with
  | ends course answer decides =>
      refine ⟨(decides.limit_iff absent (course.settings.symm ▸ set)).1 rfl, ?_⟩
      have one := course.reports.1
      rw [← decides.state] at one
      exact Nat.add_left_cancel (counted.symm.trans one)

theorem Proceeds.below_limit (h : Proceeds strategies observer n s watcher t watcher' journal)
    (valid : s.state.settings.validate = .ok ()) (absent : strategies.stopRule = none)
    (set : s.state.settings.maxIters = some m) (pos : 0 < n) : t.state.numIters < m := by
  induction h with
  | refl => exact absurd pos (Nat.lt_irrefl 0)
  | next first rest ih =>
      have course := (step_eq_iff valid).1 first
      have settings := course.settings
      cases rest with
      | refl => exact course.below_limit absent set
      | next => exact ih (settings.symm ▸ valid) (settings.symm ▸ set) (Nat.succ_pos _)

theorem ends_or_proceeds (strategies : Strategies P α S G σ) (observer : Observer P S ω)
    (s : Session P α S G σ) (watcher : ω) (limit : Nat) :
    (∃ out, runWithin strategies observer limit s watcher = some out) ∨
      ∃ t watcher' journal, Proceeds strategies observer limit s watcher t watcher' journal := by
  induction limit generalizing s watcher with
  | zero => exact .inr ⟨s, watcher, [], .refl⟩
  | succ limit ih =>
      obtain ⟨ending, t, watcher', journal, first⟩ : ∃ ending t watcher' journal,
          step strategies observer s watcher = ⟨ending, t, watcher', journal⟩ := ⟨_, _, _, _, rfl⟩
      cases ending with
      | some ending =>
          refine .inl ⟨⟨ending, t, watcher', journal⟩, ?_⟩
          rw [runWithin, first]
      | none =>
          rcases ih t watcher' with ⟨out, made⟩ | ⟨u, watcher'', later, rest⟩
          · refine .inl ⟨{ out with journal := journal ++ out.journal }, ?_⟩
            rw [runWithin, first]
            simp only [made, Option.map_some]
          · exact .inr ⟨u, watcher'', journal ++ later, .next first rest⟩

namespace Problem
variable {p : Problem P α S G σ} {limit : Nat} {out : Outcome P α S G σ ω (Except SolveError Ending)}

theorem proceeds_below (valid : p.settings.validate = .ok ()) (absent : p.strategies.stopRule = none)
    (set : p.settings.maxIters = some m)
    (h : Proceeds p.strategies observer n p.fresh watcher t watcher' journal) : n < max m 1 := by
  have counted : t.state.numIters = 0 + n := (h.counted valid).1
  rcases Nat.eq_zero_or_pos n with rfl | pos
  · omega
  · have below := h.below_limit valid absent set pos
    omega

theorem exists_outcome (absent : p.strategies.stopRule = none) (set : p.settings.maxIters = some m)
    (observer : Observer P S ω) (watcher : ω) :
    ∃ out, ∀ limit, max m 1 ≤ limit → p.solveUnder observer watcher limit = some out := by
  cases valid : p.settings.validate with
  | error invalid => exact ⟨_, fun _ _ => solveUnder_of_invalid valid⟩
  | ok =>
      rcases ends_or_proceeds p.strategies observer p.fresh watcher (max m 1) with
        ⟨out, made⟩ | ⟨t, watcher', journal, proceeds⟩
      · exact ⟨out, fun limit le => (solveUnder_of_valid valid).trans (runWithin_mono le made)⟩
      · exact absurd (proceeds_below valid absent set proceeds) (Nat.lt_irrefl _)

theorem solveUnder_unique {limit' : Nat} {out' : Outcome P α S G σ ω (Except SolveError Ending)}
    (h : p.solveUnder observer watcher limit = some out)
    (h' : p.solveUnder observer watcher limit' = some out') : out = out' := by
  cases valid : p.settings.validate with
  | error invalid =>
      rw [solveUnder_of_invalid valid] at h h'
      exact Option.some.inj (h.symm.trans h')
  | ok =>
      rw [solveUnder_of_valid valid] at h h'
      have more := runWithin_mono (Nat.le_max_left limit limit') h
      exact Option.some.inj (more.symm.trans (runWithin_mono (Nat.le_max_right limit limit') h'))

theorem numIters_of_run (valid : p.settings.validate = .ok ())
    (made : p.solveUnder observer watcher limit = some out) :
    out.session.state.numIters = out.journal.events.length := by
  obtain ⟨n, before, watcher', earlier, last, proceeds, -, final, journal⟩ := p.last_step valid made
  obtain ⟨numbered, shown⟩ := proceeds.counted valid
  have numbered : before.state.numIters = 0 + n := numbered
  have counted : out.session.state.numIters = before.state.numIters + last.events.length := final.counts.1
  rw [counted, journal, Journal.events_append, List.length_append]
  omega

theorem events_le_of_run (absent : p.strategies.stopRule = none) (set : p.settings.maxIters = some m)
    (made : p.solveUnder observer watcher limit = some out) : out.journal.events.length ≤ max m 1 := by
  cases valid : p.settings.validate with
  | error invalid =>
      rw [solveUnder_of_invalid valid] at made
      obtain rfl := Option.some.inj made
      exact Nat.zero_le _
  | ok =>
      obtain ⟨n, before, watcher', earlier, last, proceeds, -, final, journal⟩ := p.last_step valid made
      have below := proceeds_below valid absent set proceeds
      have shown := (proceeds.counted valid).2
      have one : last.events.length ≤ 1 := final.counts.2
      rw [journal, Journal.events_append, List.length_append]
      omega

theorem reached_of_run (absent : p.strategies.stopRule = none) (set : p.settings.maxIters = some m)
    (made : p.solveUnder observer watcher limit = some out) (ended : out.ending = .ok .stopRule) :
    out.session.state.numIters = max m 1 ∧ out.journal.events.length = max m 1 := by
  cases valid : p.settings.validate with
  | error invalid =>
      rw [solveUnder_of_invalid valid] at made
      obtain rfl := Option.some.inj made
      cases ended
  | ok =>
      have counted := numIters_of_run valid made
      have bound := events_le_of_run absent set made
      obtain ⟨n, before, watcher', earlier, last, -, settings, final, journal⟩ := p.last_step valid made
      rw [ended] at final
      obtain ⟨reached, one⟩ := final.reached absent (settings.symm ▸ set)
      have some : 1 ≤ out.journal.events.length := by
        rw [journal, Journal.events_append, List.length_append]
        omega
      omega

end Problem

/-- A run without a stop rule of its own ends, after as many iterations as the settings say but at least
one, or before that by an error or by its observer. -/
theorem ends_of_maxIters {p : Problem P α S G σ} (absent : p.strategies.stopRule = none)
    (set : p.settings.maxIters = some m) (observer : Observer P S ω) (watcher : ω) :
    ∃ out, (∀ limit, max m 1 ≤ limit → p.solveUnder observer watcher limit = some out) ∧
      (∀ limit out', p.solveUnder observer watcher limit = some out' → out' = out) ∧
      (p.settings.validate = .ok () → out.session.state.numIters = out.journal.events.length) ∧
      out.journal.events.length ≤ max m 1 ∧
      (out.ending = .ok .stopRule →
        out.session.state.numIters = max m 1 ∧ out.journal.events.length = max m 1) ∧
      (out.journal.events.length < max m 1 →
        (∃ e, out.ending = .error e) ∨ out.ending = .ok .observer) := by
  obtain ⟨out, made⟩ := Problem.exists_outcome absent set observer watcher
  have first := made (max m 1) (Nat.le_refl _)
  have reached := Problem.reached_of_run absent set first
  refine ⟨out, made, fun _ _ other => Problem.solveUnder_unique other first,
    fun valid => Problem.numIters_of_run valid first, Problem.events_le_of_run absent set first, reached,
    fun fewer => ?_⟩
  rcases ending : out.ending with e | (_ | _)
  · exact .inl ⟨e, rfl⟩
  · exact absurd (reached ending).2 (Nat.ne_of_lt fewer)
  · exact .inr rfl

def countedBefore : Problem Nat Float Float Unit Unit where
  strategies :=
    { generator := some fun _ rng memory => (.ok (Tensor.vector [1.5]), rng, memory)
      scorer := some fun _ memory => (.ok 1.5, memory)
      estimator := some fun _ shown memory => (.ok (shown.params + 1), memory) }
  session :=
    { state :=
        { State.initial 0 with settings := { numSamples := 1, numElite := 1, maxIters := some 3 }, numIters := 5 }
      rng := ()
      memory := ()
      bestSample := none }

theorem ends_of_countedBefore :
    countedBefore.strategies.stopRule = none ∧ countedBefore.settings.maxIters = some 3 ∧
      ∃ out, countedBefore.solveUnder .silent () 3 = some out ∧ out.ending = .ok .stopRule ∧
        out.session.state.numIters = 3 ∧ out.journal.events.length = 3 := by
  have ending : (countedBefore.solveUnder .silent () 3).map (·.ending.toOption) = some (some .stopRule) := by
    decide +kernel
  obtain ⟨out, made, -, -, -, reached, -⟩ := ends_of_maxIters (p := countedBefore) rfl rfl .silent ()
  have made : countedBefore.solveUnder .silent () 3 = some out := made 3 (by decide)
  rw [made, Option.map_some, Option.some.injEq] at ending
  have ended : out.ending = .ok .stopRule := by
    cases result : out.ending with
    | error => rw [result] at ending; cases ending
    | ok => rw [result] at ending; exact congrArg Except.ok (Option.some.inj ending)
  exact ⟨rfl, rfl, out, made, ended, reached ended⟩

end CrossEntropy
