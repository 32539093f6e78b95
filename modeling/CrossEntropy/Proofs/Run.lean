import CrossEntropy.Proofs.Course
import CrossEntropy.Search.Problem

namespace CrossEntropy
variable {P α S G σ ω : Type} [Score S] {strategies : Strategies P α S G σ} {observer : Observer P S ω}
  {s t u : Session P α S G σ} {watcher watcher' watcher'' : ω}

inductive Decides (strategies : Strategies P α S G σ) (s : Session P α S G σ) :
    Bool → Session P α S G σ → Journal P α S → Prop
  | rule {rule stop memory} (installed : strategies.stopRule = some rule)
      (returned : rule s.state s.memory = (stop, memory)) :
      Decides strategies s stop (s.withMemory memory) [.decideStop s.state]
  | limit {limit} (absent : strategies.stopRule = none) (set : s.state.settings.maxIters = some limit) :
      Decides strategies s (limit ≤ s.state.numIters) s []

def reported (journal : Journal P α S) (event : Event P S) (verdict : Verdict)
    (notes : List (LogRecord S)) : Journal P α S :=
  journal ++ .observe event verdict :: notes.map .log

open Iteration in
/-- A step from a session: its ending, if it is the last of the run, and what it leaves. -/
inductive Step (strategies : Strategies P α S G σ) (observer : Observer P S ω) (s : Session P α S G σ)
    (watcher : ω) : Outcome P α S G σ ω (Option (Except SolveError Ending)) → Prop
  | fails {e t journal} (course : Course strategies s (.error e) t journal) :
      Step strategies observer s watcher ⟨some (.error e), t, watcher, journal⟩
  | stopped {event t journal notes watcher'} (course : Course strategies s (.ok event) t journal)
      (answer : observer event watcher = (.stop, notes, watcher')) :
      Step strategies observer s watcher ⟨some (.ok .observer), t, watcher',
        reported journal event .stop notes ++ [.log (.stoppedByObserver t.state.numIters)]⟩
  | undecided {event t journal notes watcher'} (course : Course strategies s (.ok event) t journal)
      (answer : observer event watcher = (.proceed, notes, watcher'))
      (absent : strategies.stopRule = none) (unset : t.state.settings.maxIters = none) :
      Step strategies observer s watcher ⟨some (.error .missingMaxIters), t, watcher',
        reported journal event .proceed notes⟩
  | ends {event t journal notes watcher' u last} (course : Course strategies s (.ok event) t journal)
      (answer : observer event watcher = (.proceed, notes, watcher'))
      (decides : Decides strategies t true u last) :
      Step strategies observer s watcher ⟨some (.ok .stopRule), u, watcher',
        reported journal event .proceed notes ++ last ++ [.log (.finished u.state.numIters event.minScore)]⟩
  | goesOn {event t journal notes watcher' u last} (course : Course strategies s (.ok event) t journal)
      (answer : observer event watcher = (.proceed, notes, watcher'))
      (decides : Decides strategies t false u last) :
      Step strategies observer s watcher ⟨none, u, watcher',
        reported journal event .proceed notes ++ last⟩

omit [Score S] in
theorem finished_of_decides {stop : Bool} {journal : Journal P α S}
    (h : Decides strategies s stop t journal) : finished strategies s = (.ok stop, t, journal) := by
  cases h with
  | rule installed returned =>
      simp only [finished, Stage.current_bind_apply, installed, returned]
      exact Stage.write_bind_of rfl
  | limit absent set =>
      simp only [finished, Stage.current_bind_apply, absent, set]
      rfl

omit [Score S] in
theorem finished_of_unset (absent : strategies.stopRule = none) (unset : s.state.settings.maxIters = none) :
    finished strategies s = (.error .missingMaxIters, s, []) := by
  simp only [finished, Stage.current_bind_apply, absent, unset, Stage.fail_apply]

omit [Score S] in
theorem decides_or_unset (strategies : Strategies P α S G σ) (s : Session P α S G σ) :
    (∃ stop t journal, Decides strategies s stop t journal) ∨
      strategies.stopRule = none ∧ s.state.settings.maxIters = none := by
  cases installed : strategies.stopRule with
  | some rule => exact .inl ⟨_, _, _, .rule installed rfl⟩
  | none =>
      cases set : s.state.settings.maxIters with
      | some limit => exact .inl ⟨_, _, _, .limit installed set⟩
      | none => exact .inr ⟨rfl, rfl⟩

theorem step_of_step {made : Outcome P α S G σ ω (Option (Except SolveError Ending))}
    (h : Step strategies observer s watcher made) : step strategies observer s watcher = made := by
  cases h with
  | fails course => simp only [step, Iteration.iterate_of_course course]
  | stopped course answer => simp only [step, Iteration.iterate_of_course course, answer, reported]
  | undecided course answer absent unset =>
      simp only [step, Iteration.iterate_of_course course, answer, finished_of_unset absent unset, reported,
        List.append_nil]
  | ends course answer decides =>
      simp only [step, Iteration.iterate_of_course course, answer, finished_of_decides decides, reported]
  | goesOn course answer decides =>
      simp only [step, Iteration.iterate_of_course course, answer, finished_of_decides decides, reported]

theorem exists_step (strategies : Strategies P α S G σ) (valid : s.state.settings.validate = .ok ())
    (observer : Observer P S ω) (watcher : ω) :
    ∃ made, Step strategies observer s watcher made := by
  obtain ⟨result, t, journal, course⟩ := Iteration.exists_course strategies valid
  cases result with
  | error e => exact ⟨_, .fails course⟩
  | ok event =>
      obtain ⟨verdict, notes, watcher', answer⟩ :
          ∃ verdict notes watcher', observer event watcher = (verdict, notes, watcher') := ⟨_, _, _, rfl⟩
      cases verdict with
      | stop => exact ⟨_, .stopped course answer⟩
      | proceed =>
          rcases decides_or_unset strategies t with ⟨stop, u, last, decides⟩ | ⟨absent, unset⟩
          · cases stop with
            | true => exact ⟨_, .ends course answer decides⟩
            | false => exact ⟨_, .goesOn course answer decides⟩
          · exact ⟨_, .undecided course answer absent unset⟩

theorem step_eq_iff (valid : s.state.settings.validate = .ok ())
    {made : Outcome P α S G σ ω (Option (Except SolveError Ending))} :
    step strategies observer s watcher = made ↔ Step strategies observer s watcher made := by
  refine ⟨fun h => ?_, step_of_step⟩
  obtain ⟨made', course⟩ := exists_step strategies valid observer watcher
  rwa [← h, step_of_step course]

omit [Score S] in
theorem Decides.state {stop : Bool} {journal : Journal P α S} (h : Decides strategies s stop t journal) :
    t.state = s.state := by
  cases h <;> rfl

omit [Score S] in
theorem Decides.rng {stop : Bool} {journal : Journal P α S} (h : Decides strategies s stop t journal) :
    t.rng = s.rng := by
  cases h <;> rfl

omit [Score S] in
theorem Decides.best {stop : Bool} {journal : Journal P α S} (h : Decides strategies s stop t journal) :
    t.best = s.best := by
  cases h <;> rfl

theorem Step.settings {made : Outcome P α S G σ ω (Option (Except SolveError Ending))}
    (h : Step strategies observer s watcher made) : made.session.state.settings = s.state.settings := by
  cases h with
  | fails course | stopped course | undecided course => exact course.settings
  | ends course _ decides | goesOn course _ decides => exact decides.state ▸ course.settings

omit [Score S] in
theorem reported_events {journal : Journal P α S} {event : Event P S} {verdict : Verdict}
    {notes : List (LogRecord S)} (quiet : journal.events = []) :
    (reported journal event verdict notes).events = [(event, verdict)] := by
  rw [reported, Journal.events_append, quiet]
  exact congrArg ((event, verdict) :: ·) (Journal.events_map_log notes)

omit [Score S] in
theorem reported_calls (journal : Journal P α S) (event : Event P S) (verdict : Verdict)
    (notes : List (LogRecord S)) :
    (reported journal event verdict notes).calls = journal.calls ++ [.observe event verdict] := by
  rw [reported, Journal.calls_append]
  exact congrArg (journal.calls ++ Entry.observe event verdict :: ·) (Journal.calls_map_log notes)

omit [Score S] in
theorem Decides.events {stop : Bool} {journal : Journal P α S} (h : Decides strategies s stop t journal) :
    journal.events = [] := by
  cases h <;> rfl

theorem Step.counted {journal : Journal P α S}
    (h : Step strategies observer s watcher ⟨none, t, watcher', journal⟩) :
    t.state.numIters = s.state.numIters + 1 ∧ journal.events.length = 1 := by
  cases h with
  | goesOn course answer decides =>
      refine ⟨decides.state ▸ course.reports.1, ?_⟩
      rw [Journal.events_append, reported_events course.events, decides.events]
      rfl

inductive Proceeds (strategies : Strategies P α S G σ) (observer : Observer P S ω) :
    Nat → Session P α S G σ → ω → Session P α S G σ → ω → Journal P α S → Prop
  | refl {s : Session P α S G σ} {watcher : ω} : Proceeds strategies observer 0 s watcher s watcher []
  | next {n : Nat} {s t u : Session P α S G σ} {watcher watcher' watcher'' : ω} {journal later : Journal P α S}
      (first : step strategies observer s watcher = ⟨none, t, watcher', journal⟩)
      (rest : Proceeds strategies observer n t watcher' u watcher'' later) :
      Proceeds strategies observer (n + 1) s watcher u watcher'' (journal ++ later)

namespace Proceeds
variable {n : Nat} {journal : Journal P α S}

theorem settings (h : Proceeds strategies observer n s watcher t watcher' journal)
    (valid : s.state.settings.validate = .ok ()) : t.state.settings = s.state.settings := by
  induction h with
  | refl => rfl
  | next first _ ih =>
      have kept := ((step_eq_iff valid).1 first).settings
      exact (ih (kept.symm ▸ valid)).trans kept

theorem settled (h : Proceeds strategies observer n s watcher t watcher' journal)
    (valid : s.state.settings.validate = .ok ()) : t.state.settings.validate = .ok () :=
  (congrArg Settings.validate (h.settings valid)).trans valid

theorem counted (h : Proceeds strategies observer n s watcher t watcher' journal)
    (valid : s.state.settings.validate = .ok ()) :
    t.state.numIters = s.state.numIters + n ∧ journal.events.length = n := by
  induction h with
  | refl => exact ⟨rfl, rfl⟩
  | next first _ ih =>
      have course := (step_eq_iff valid).1 first
      obtain ⟨numbered, shown⟩ := course.counted
      obtain ⟨numbered', shown'⟩ := ih (course.settings.symm ▸ valid)
      rw [Journal.events_append, List.length_append]
      omega

end Proceeds

theorem runWithin_of_proceeds {n : Nat} {journal : Journal P α S}
    (h : Proceeds strategies observer n s watcher t watcher' journal) (limit : Nat) :
    runWithin strategies observer (n + limit) s watcher =
      (runWithin strategies observer limit t watcher').map fun rest =>
        { rest with journal := journal ++ rest.journal } := by
  induction h with
  | refl => simp
  | next first _ ih =>
      rw [Nat.add_right_comm, runWithin, first]
      simp [ih, Option.map_map, Function.comp_def]

theorem runWithin_eq_some_iff {limit : Nat} {out : Outcome P α S G σ ω (Except SolveError Ending)} :
    runWithin strategies observer limit s watcher = some out ↔
      ∃ n t watcher' journal last, n < limit ∧ Proceeds strategies observer n s watcher t watcher' journal ∧
        step strategies observer t watcher' = ⟨some out.ending, out.session, out.watcher, last⟩ ∧
        out.journal = journal ++ last := by
  constructor
  · intro h
    induction limit generalizing s watcher out with
    | zero => cases h
    | succ limit ih =>
        obtain ⟨ending, t, watcher', journal, first⟩ : ∃ ending t watcher' journal,
            step strategies observer s watcher = ⟨ending, t, watcher', journal⟩ := ⟨_, _, _, _, rfl⟩
        rw [runWithin, first] at h
        cases ending with
        | some ending =>
            obtain rfl := Option.some.inj h
            exact ⟨0, s, watcher, [], journal, Nat.succ_pos _, .refl, first, rfl⟩
        | none =>
            obtain ⟨rest, made, rfl⟩ := Option.map_eq_some_iff.1 h
            obtain ⟨n, u, watcher'', later, last, lt, proceeds, ended, eq⟩ := ih made
            refine ⟨n + 1, u, watcher'', journal ++ later, last, by omega, .next first proceeds, ended, ?_⟩
            rw [eq, List.append_assoc]
  · rintro ⟨n, t, watcher', journal, last, lt, proceeds, ended, eq⟩
    obtain ⟨more, rfl⟩ : ∃ more, limit = n + (more + 1) := ⟨limit - n - 1, by omega⟩
    rw [runWithin_of_proceeds proceeds, runWithin, ended]
    simp [← eq]

namespace Problem

def fresh (p : Problem P α S G σ) : Session P α S G σ :=
  { p.session with state := { p.state with numIters := 0 } }

theorem solveUnder_of_valid {p : Problem P α S G σ} {limit : Nat} (valid : p.settings.validate = .ok ()) :
    p.solveUnder observer watcher limit = runWithin p.strategies observer limit p.fresh watcher := by
  rw [solveUnder, valid]
  rfl

theorem solveUnder_of_invalid {p : Problem P α S G σ} {limit : Nat} {e : SettingsError}
    (invalid : p.settings.validate = .error e) :
    p.solveUnder observer watcher limit = some ⟨.error (.settings e), p.session, watcher, []⟩ := by
  rw [solveUnder, invalid]

theorem last_step (p : Problem P α S G σ) (valid : p.settings.validate = .ok ()) {limit : Nat}
    {out : Outcome P α S G σ ω (Except SolveError Ending)}
    (made : p.solveUnder observer watcher limit = some out) :
    ∃ n t watcher' journal last, Proceeds p.strategies observer n p.fresh watcher t watcher' journal ∧
      t.state.settings = p.settings ∧
      Step p.strategies observer t watcher' ⟨some out.ending, out.session, out.watcher, last⟩ ∧
      out.journal = journal ++ last := by
  rw [solveUnder_of_valid valid] at made
  obtain ⟨n, t, watcher', journal, last, -, proceeds, ended, eq⟩ := runWithin_eq_some_iff.1 made
  have kept : t.state.settings = p.settings := proceeds.settings valid
  exact ⟨n, t, watcher', journal, last, proceeds, kept, (step_eq_iff (kept.symm ▸ valid)).1 ended, eq⟩

end Problem
end CrossEntropy
