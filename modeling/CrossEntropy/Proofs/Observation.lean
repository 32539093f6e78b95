import CrossEntropy.Proofs.CallOrder
import CrossEntropy.Search.Stock
import CrossEntropy.Watch.ProgressLog

namespace CrossEntropy
variable {P α S G σ ω ε : Type}

/-- An observer's memory after it has let some events go by; nothing if it stops at one of them. -/
def Observer.pass (observer : Observer P S ω) : List (Event P S) → ω → Option ω
  | [], watcher => some watcher
  | event :: events, watcher =>
      match observer event watcher with
      | (.proceed, _, watcher') => pass observer events watcher'
      | (.stop, _, _) => none

/-- A run as its problem and its strategies see it: without the log and the memory of its observer. -/
def Outcome.unwatched (out : Outcome P α S G σ ω ε) : ε × Session P α S G σ × Journal P α S :=
  (out.ending, out.session, out.journal.calls)

theorem Journal.events_calls (journal : Journal P α S) : journal.calls.events = journal.events := by
  induction journal with
  | nil => rfl
  | cons entry journal ih => cases entry <;> simpa [calls, events] using ih

variable [Score S] {strategies : Strategies P α S G σ} {observer : Observer P S ω}
  {s t u : Session P α S G σ} {watcher watcher' watcher'' : ω} {n k limit : Nat}
  {journal before calls : Journal P α S} {event : Event P S} {notes : List (LogRecord S)}

/-- A run gets to the end of the update of iteration `k`, counted from zero. What follows the number: the
calls of the iterations before, the observer's memory after these, and the calls of the iteration with its
event and the session that the update leaves. -/
inductive Problem.Completes (p : Problem P α S G σ) (observer : Observer P S ω) (watcher : ω) :
    Nat → Journal P α S → ω → Journal P α S → Event P S → Session P α S G σ → Prop
  | intro {k : Nat} {s u : Session P α S G σ} {watcher' : ω} {earlier last : Journal P α S} {event : Event P S}
      (valid : p.settings.validate = .ok ())
      (proceeds : Proceeds p.strategies observer k p.fresh watcher s watcher' earlier)
      (completed : iterate p.strategies s = (.ok event, u, last)) :
      Completes p observer watcher k earlier.calls watcher' last.calls event u

theorem step_of_error {e : SolveError} (failed : iterate strategies s = (.error e, t, journal))
    (observer : Observer P S ω) (watcher : ω) :
    step strategies observer s watcher = ⟨some (.error e), t, watcher, journal⟩ := by
  simp only [step, failed]

theorem step_of_stop (completed : iterate strategies s = (.ok event, t, journal))
    (answer : observer event watcher = (.stop, notes, watcher')) :
    step strategies observer s watcher = ⟨some (.ok .observer), t, watcher',
      reported journal event .stop notes ++ [.log (.stoppedByObserver t.state.numIters)]⟩ := by
  simp only [step, completed, answer, reported]

theorem step_of_proceed (completed : iterate strategies s = (.ok event, t, journal))
    (answer : observer event watcher = (.proceed, notes, watcher')) :
    (step strategies observer s watcher).unwatched = (step strategies .silent s ()).unwatched ∧
      (step strategies observer s watcher).watcher = watcher' := by
  have quiet : Observer.silent event () = (.proceed, [], ()) := rfl
  have same (last : Journal P α S) :
      (reported journal event .proceed notes ++ last).calls = (reported journal event .proceed [] ++ last).calls := by
    rw [Journal.calls_append, Journal.calls_append, reported_calls, reported_calls]
  obtain ⟨result, u, last, decided⟩ : ∃ result u last, finished strategies t = (result, u, last) := ⟨_, _, _, rfl⟩
  cases result with
  | error e =>
      simp only [step, completed, answer, quiet, decided, Outcome.unwatched, Prod.mk.injEq, true_and, and_true]
      exact same last
  | ok stop =>
      cases stop with
      | false =>
          simp only [step, completed, answer, quiet, decided, Outcome.unwatched, Prod.mk.injEq, true_and, and_true]
          exact same last
      | true =>
          simp only [step, completed, answer, quiet, decided, Outcome.unwatched, Prod.mk.injEq, true_and, and_true]
          rw [Journal.calls_append _ [_], Journal.calls_append _ [_]]
          exact congrArg (· ++ _) (same last)

theorem Step.proceeds (h : Step strategies observer s watcher ⟨none, t, watcher', journal⟩) :
    ∃ event u last notes, iterate strategies s = (.ok event, u, last) ∧
      observer event watcher = (.proceed, notes, watcher') ∧ journal.events = [(event, .proceed)] := by
  cases h with
  | @goesOn event u _ notes _ _ _ course answer decides =>
      refine ⟨event, u, _, notes, Iteration.iterate_of_course course, answer, ?_⟩
      rw [Journal.events_append, reported_events course.events, decides.events, List.append_nil]

omit [Score S] in
theorem eq_of_unwatched {out : Outcome P α S G σ ω ε} {ending : ε}
    (same : out.unwatched = (ending, t, calls)) (watched : out.watcher = watcher') :
    ∃ journal, out = ⟨ending, t, watcher', journal⟩ ∧ journal.calls = calls := by
  obtain ⟨ending', session, watcher, journal⟩ := out
  obtain ⟨rfl, rest⟩ := Prod.mk.inj same
  obtain ⟨rfl, rfl⟩ := Prod.mk.inj rest
  obtain rfl : watcher = watcher' := watched
  exact ⟨journal, rfl, rfl⟩

theorem Proceeds.silent (h : Proceeds strategies observer n s watcher t watcher' journal)
    (valid : s.state.settings.validate = .ok ()) :
    ∃ quiet, Proceeds strategies .silent n s () t () quiet ∧ quiet.calls = journal.calls ∧
      observer.pass (quiet.events.map Prod.fst) watcher = some watcher' := by
  induction h with
  | refl => exact ⟨[], .refl, rfl, rfl⟩
  | next first _ ih =>
      have made := (step_eq_iff valid).1 first
      obtain ⟨event, u, last, notes, completed, answer, shown⟩ := made.proceeds
      obtain ⟨same, -⟩ := step_of_proceed completed answer
      rw [first] at same
      obtain ⟨quiet, silent, calls⟩ := eq_of_unwatched same.symm rfl
      obtain ⟨rest, later, restCalls, passed⟩ := ih (made.settings.symm ▸ valid)
      have events : quiet.events = [(event, .proceed)] := by
        rw [← Journal.events_calls, calls, Journal.events_calls, shown]
      refine ⟨quiet ++ rest, .next silent later, ?_, ?_⟩
      · rw [Journal.calls_append, Journal.calls_append, calls, restCalls]
      · rw [Journal.events_append, events]
        simpa [Observer.pass, answer] using passed

theorem Proceeds.observed {quiet : Journal P α S} {nobody nobody' : Unit}
    (h : Proceeds strategies .silent n s nobody t nobody' quiet)
    (valid : s.state.settings.validate = .ok ())
    (passed : observer.pass (quiet.events.map Prod.fst) watcher = some watcher') :
    ∃ journal, Proceeds strategies observer n s watcher t watcher' journal ∧ journal.calls = quiet.calls := by
  induction h generalizing watcher with
  | refl =>
      obtain rfl := Option.some.inj passed
      exact ⟨[], .refl, rfl⟩
  | next first _ ih =>
      have made := (step_eq_iff valid).1 first
      obtain ⟨event, u, last, notes, completed, -, shown⟩ := made.proceeds
      obtain ⟨verdict, notes, between, answer⟩ :
          ∃ verdict notes between, observer event watcher = (verdict, notes, between) := ⟨_, _, _, rfl⟩
      rw [Journal.events_append, shown, List.map_append, List.map_singleton, List.singleton_append,
        Observer.pass, answer] at passed
      cases verdict with
      | stop => cases passed
      | proceed =>
          obtain ⟨same, watched⟩ := step_of_proceed completed answer
          rw [first] at same
          obtain ⟨journal, observed, calls⟩ := eq_of_unwatched same watched
          obtain ⟨rest, later, restCalls⟩ := ih (made.settings.symm ▸ valid) passed
          refine ⟨journal ++ rest, .next observed later, ?_⟩
          rw [Journal.calls_append, Journal.calls_append, calls, restCalls]

omit [Score S] in
theorem unwatched_behind (journal : Journal P α S) (result : Option (Outcome P α S G σ ω ε)) :
    (result.map fun rest => { rest with journal := journal ++ rest.journal }).map Outcome.unwatched =
      (result.map Outcome.unwatched).map fun rest => (rest.1, rest.2.1, journal.calls ++ rest.2.2) := by
  cases result with
  | none => rfl
  | some out => exact congrArg (fun calls => some (out.ending, out.session, calls)) (Journal.calls_append _ _)

theorem runWithin_unwatched
    (passes : ∀ {n t watcher' journal event u last}, Proceeds strategies observer n s watcher t watcher' journal →
      iterate strategies t = (.ok event, u, last) → (observer event watcher').1 = .proceed) (limit : Nat) :
    (runWithin strategies observer limit s watcher).map Outcome.unwatched =
      (runWithin strategies .silent limit s ()).map Outcome.unwatched := by
  induction limit generalizing s watcher with
  | zero => rfl
  | succ limit ih =>
      obtain ⟨result, t, last, iterated⟩ : ∃ result t last, iterate strategies s = (result, t, last) := ⟨_, _, _, rfl⟩
      cases result with
      | error e => simp [runWithin, step_of_error iterated, Outcome.unwatched]
      | ok event =>
          obtain ⟨verdict, notes, watcher', answer⟩ :
              ∃ verdict notes watcher', observer event watcher = (verdict, notes, watcher') := ⟨_, _, _, rfl⟩
          have goes := passes .refl iterated
          rw [answer] at goes
          obtain rfl : verdict = .proceed := goes
          obtain ⟨same, watched⟩ := step_of_proceed iterated answer
          obtain ⟨ending, u, _, quiet, silent⟩ : ∃ ending u nobody quiet,
              step strategies .silent s () = ⟨ending, u, nobody, quiet⟩ := ⟨_, _, _, _, rfl⟩
          rw [silent] at same
          obtain ⟨journal, observed, calls⟩ := eq_of_unwatched same watched
          rw [runWithin, runWithin, observed, silent]
          cases ending with
          | some ending => simp [Outcome.unwatched, calls]
          | none =>
              have later : (runWithin strategies observer limit u watcher').map Outcome.unwatched =
                  (runWithin strategies .silent limit u ()).map Outcome.unwatched :=
                ih fun proceeds => passes (.next observed proceeds)
              rw [unwatched_behind, unwatched_behind, later, calls]

theorem CallOrder.Completed.undecided {c : Settings} {turn next : Turn P α S G σ} {elite : Elite S}
    (h : CallOrder.Completed strategies c turn elite next calls) (shown : State P S) :
    .decideStop shown ∉ calls := by
  cases h with
  | estimated batch | updated batch =>
      cases batch
      simp [Journal.scoreCalls]

namespace Problem
variable {p : Problem P α S G σ}

theorem Completes.lockstep :
    p.Completes observer watcher k before watcher' calls event u ↔
      p.Completes .silent () k before () calls event u ∧
        observer.pass (before.events.map Prod.fst) watcher = some watcher' := by
  constructor
  · rintro ⟨valid, proceeds, completed⟩
    obtain ⟨quiet, silent, same, passed⟩ := proceeds.silent valid
    rw [← same, Journal.events_calls]
    exact ⟨.intro valid silent completed, passed⟩
  · rintro ⟨⟨valid, proceeds, completed⟩, passed⟩
    rw [Journal.events_calls] at passed
    obtain ⟨journal, observed, same⟩ := proceeds.observed valid passed
    rw [← same]
    exact .intro valid observed completed

theorem Completes.course (h : p.Completes observer watcher k before watcher' calls event u) :
    ∃ s earlier last, p.settings.validate = .ok () ∧
      Proceeds p.strategies observer k p.fresh watcher s watcher' earlier ∧ s.state.settings = p.settings ∧
      Iteration.Course p.strategies s (.ok event) u last ∧ last.calls = calls := by
  obtain ⟨valid, proceeds, completed⟩ := h
  have course := (Iteration.iterate_eq_iff (proceeds.settled valid)).1 completed
  exact ⟨_, _, _, valid, proceeds, proceeds.settings valid, course, rfl⟩

theorem Completes.undecided (h : p.Completes observer watcher k before watcher' calls event u)
    (shown : State P S) : .decideStop shown ∉ calls := by
  obtain ⟨valid, proceeds, completed⟩ := h
  obtain ⟨_, calls, -⟩ := ((Iteration.iterate_eq_iff (proceeds.settled valid)).1 completed).completes
  exact calls.undecided shown

theorem Completes.stopped (h : p.Completes observer watcher k before watcher' calls event u)
    (answer : observer event watcher' = (.stop, notes, watcher'')) :
    ∃ out, (∀ limit, k < limit → p.solveUnder observer watcher limit = some out) ∧
      out.unwatched = (.ok .observer, u, before ++ calls ++ [.observe event .stop]) ∧ out.watcher = watcher'' := by
  obtain ⟨valid, proceeds, completed⟩ := h
  have final := step_of_stop completed answer
  refine ⟨⟨.ok .observer, u, watcher'', _⟩, fun limit lt => (solveUnder_of_valid valid).trans <|
    runWithin_eq_some_iff.2 ⟨k, _, watcher', _, _, lt, proceeds, final, rfl⟩, ?_, rfl⟩
  refine Prod.ext rfl (Prod.ext rfl ?_)
  change Journal.calls (_ ++ (_ ++ [_])) = _
  rw [Journal.calls_append, Journal.calls_append, reported_calls, List.append_assoc]
  exact (List.append_assoc ..).symm

theorem solveUnder_unwatched
    (passes : ∀ {k before watcher' calls event u}, p.Completes observer watcher k before watcher' calls event u →
      (observer event watcher').1 = .proceed) (limit : Nat) :
    (p.solveUnder observer watcher limit).map Outcome.unwatched = (p.solve limit).map Outcome.unwatched := by
  cases valid : p.settings.validate with
  | error invalid => rw [solve, solveUnder_of_invalid valid, solveUnder_of_invalid valid]; rfl
  | ok =>
      rw [solve, solveUnder_of_valid valid, solveUnder_of_valid valid]
      exact runWithin_unwatched (fun proceeds completed => passes (.intro valid proceeds completed)) limit

end Problem

/-- Up to the update of an iteration a run under an observer and the run without it are the same, as long as
the observer lets the iterations before go by. If it stops at the iteration, the run ends there. -/
theorem observer_cuts_short (p : Problem P α S G σ) (observer : Observer P S ω) (watcher : ω) :
    (∀ {k before watcher' calls event u},
      p.Completes observer watcher k before watcher' calls event u ↔
        p.Completes .silent () k before () calls event u ∧
          observer.pass (before.events.map Prod.fst) watcher = some watcher') ∧
    (∀ {k before watcher' calls event u notes watcher''},
      p.Completes observer watcher k before watcher' calls event u →
      observer event watcher' = (.stop, notes, watcher'') →
      (∀ shown, .decideStop shown ∉ calls) ∧
        ∃ out, (∀ limit, k < limit → p.solveUnder observer watcher limit = some out) ∧
          out.unwatched = (.ok .observer, u, before ++ calls ++ [.observe event .stop]) ∧
          out.watcher = watcher'') ∧
    ((∀ {k before watcher' calls event u}, p.Completes observer watcher k before watcher' calls event u →
        (observer event watcher').1 = .proceed) →
      ∀ limit, (p.solveUnder observer watcher limit).map Outcome.unwatched =
        (p.solve limit).map Outcome.unwatched) ∧
    ∀ (log : ProgressLog) limit, (p.solveUnder log.toObserver () limit).map Outcome.unwatched =
      (p.solve limit).map Outcome.unwatched :=
  ⟨Problem.Completes.lockstep, fun completes answer => ⟨completes.undecided, completes.stopped answer⟩,
    fun passes limit => Problem.solveUnder_unwatched passes limit,
    fun _ limit => Problem.solveUnder_unwatched (fun _ => rfl) limit⟩

def endless : Problem Nat Float Float Unit Nat where
  strategies :=
    { generator := some fun _ rng memory => (.ok (Tensor.vector [1.5]), rng, memory)
      scorer := some fun _ memory => (.ok 1.5, memory)
      estimator := some fun _ shown memory => (.ok (shown.params + 1), memory)
      stopRule := some fun _ asked => (false, asked + 1) }
  session :=
    { state := { State.initial 0 with settings := { numSamples := 1, numElite := 1 } }
      rng := ()
      memory := 0
      bestSample := none }

theorem endless_cut_short :
    let observer : Observer Nat Float Unit := .stopWhen fun event => event.iter == 2
    (∃ before calls event u, endless.Completes .silent () 1 before () calls event u ∧
      observer.pass (before.events.map Prod.fst) () = some () ∧ (∀ shown, .decideStop shown ∉ calls) ∧
      ∃ out, endless.solveUnder observer () 2 = some out ∧ out.ending = .ok .observer ∧ out.session = u ∧
        out.session.state.numIters = 2 ∧ out.session.memory = 1) ∧
    (twoRounds.solve 2).isSome = true ∧
    (twoRounds.solveUnder (.stopWhen fun _ => false) () 2).map Outcome.unwatched =
      (twoRounds.solve 2).map Outcome.unwatched ∧
    (twoRounds.solveUnder (ProgressLog.every 0).toObserver () 2).map Outcome.unwatched =
      (twoRounds.solve 2).map Outcome.unwatched := by
  intro observer
  obtain ⟨lockstep, stopped, -⟩ := observer_cuts_short endless observer ()
  refine ⟨?_, by decide +kernel, (observer_cuts_short twoRounds _ ()).2.2.1 (fun _ => rfl) 2,
    (observer_cuts_short twoRounds .silent ()).2.2.2 (.every 0) 2⟩
  have numbers :
      let made := step endless.strategies observer endless.fresh ()
      let next := iterate endless.strategies made.session
      (made.ending.isNone, next.1.toOption.map Event.iter, next.2.1.state.numIters, next.2.1.memory) =
        (true, some 2, 2, 1) := by decide +kernel
  rcases first : step endless.strategies observer endless.fresh () with ⟨ending, s, nobody, journal⟩
  rcases completed : iterate endless.strategies s with ⟨result, u, last⟩
  simp only [first, completed, Prod.mk.injEq, Option.isNone_iff_eq_none] at numbers
  obtain ⟨rfl, second, numIters, memory⟩ := numbers
  cases result with
  | error => cases second
  | ok event =>
      have completes : endless.Completes observer () 1 _ () _ event u := .intro rfl (.next first .refl) completed
      have answer : observer event () = (.stop, [], ()) := by
        have two : event.iter = 2 := Option.some.inj second
        simp [observer, Observer.stopWhen, two]
      obtain ⟨unobserved, passed⟩ := lockstep.1 completes
      obtain ⟨undecided, out, made, ended, -⟩ := stopped completes answer
      obtain ⟨ending, rest⟩ := Prod.mk.inj ended
      obtain ⟨rfl, -⟩ := Prod.mk.inj rest
      exact ⟨_, _, event, _, unobserved, passed, undecided, out, made 2 (by decide), ending, rfl, numIters, memory⟩

end CrossEntropy
