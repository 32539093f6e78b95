import CrossEntropy.Proofs.Lifetime
import CrossEntropy.Proofs.LogRecords
import CrossEntropy.Proofs.PassiveTracking

namespace CrossEntropy
variable {P α G σ ω : Type}

def Falls (before : Float) (scores : List Float) (after : Float) : Prop :=
  (before :: (scores ++ [after])).Pairwise fun x y => y ≤ x

/-- What the events and the records of a run, or of a part of it, say together: the run has its settings and starts
after a number of iterations with a best-ever score, and it ends, or goes on, with a state. -/
structure Story (settings : Settings) (start : Nat) (before : Float) (ending : Option (Except SolveError Ending))
    (s : State P Float) (journal : Journal P α Float) : Prop where
  numbered : journal.shown.map Event.iter = List.range' (start + 1) journal.shown.length
  elites : ∀ event ∈ journal.shown, settings.numElite ≤ event.eliteCount ∧
    event.eliteCount ≤ settings.numSamples ∧ event.minScore ≤ event.eliteScore
  bests : Falls before (journal.shown.map Event.bestScore) s.bestScore
  trace : Improves before (journal.records .trace) s.bestScore
  debug : journal.records .debug = journal.shown.map Event.record
  info : Closing s ending (journal.records .info)
  /-- The record of the end, if there is one, is the last entry. -/
  last : (journal.records .info).map .log <:+ journal

namespace Falls
variable {before between after : Float} {scores later : List Float}

theorem refl (number : before.isNaN = false) : Falls before [] before := by
  simpa [Falls] using float_le_refl number

theorem le (h : Falls before scores after) : after ≤ before :=
  List.rel_of_pairwise_cons h (List.mem_append_right _ (.head _))

theorem append (h : Falls before scores between) (rest : Falls between later after) :
    Falls before (scores ++ later) after := by
  have split : before :: (scores ++ later ++ [after]) = (before :: scores) ++ (later ++ [after]) := by simp
  have first : (before :: scores ++ [between]).Pairwise fun x y : Float => y ≤ x := h
  obtain ⟨earlier, -, above⟩ := List.pairwise_append.1 first
  obtain ⟨below, rest⟩ := List.pairwise_cons.1 rest
  rw [Falls, split]
  refine List.pairwise_append.2 ⟨earlier, rest, fun x hx y hy => ?_⟩
  exact float_le_trans (below y hy) (above x hx between (.head _))

end Falls

theorem Improves.minima {before after : Float} {records : List (LogRecord Float)} (h : Improves before records after) :
    ∃ minima : List (Nat × Float), records = minima.map (fun m => .newMinimum m.1 m.2) ∧
      (before :: minima.map Prod.snd).Pairwise (fun x y => y < x) ∧ (minima.map Prod.snd).getLastD before = after := by
  induction h with
  | refl => exact ⟨[], rfl, List.pairwise_singleton _ _, rfl⟩
  | @lower best score _ index _ lower _ ih =>
      obtain ⟨minima, rfl, falls, last⟩ := ih
      refine ⟨(index, score) :: minima, rfl, List.pairwise_cons.2 ⟨?_, falls⟩, ?_⟩
      · refine List.forall_mem_cons.2 ⟨lower, fun x member => ?_⟩
        exact float_lt_trans (List.rel_of_pairwise_cons falls member) lower
      · rw [List.map_cons, List.getLastD_cons]
        exact last

theorem Story.append {settings : Settings} {start : Nat} {before : Float} {ending : Option (Except SolveError Ending)}
    {s t : State P Float} {first rest : Journal P α Float} (h : Story settings start before none s first)
    (later : Story settings (start + first.shown.length) s.bestScore ending t rest) :
    Story settings start before ending t (first ++ rest) := by
  -- Only the last part of a run has a record of its end.
  have quiet : first.records .info = [] := by
    have info := h.info
    generalize first.records .info = records at info
    cases info
    rfl
  constructor
  · rw [Journal.shown_append, List.map_append, h.numbered, later.numbered, List.length_append,
      Nat.add_right_comm, List.range'_append_1]
  · rw [Journal.shown_append]
    exact List.forall_mem_append.2 ⟨h.elites, later.elites⟩
  · rw [Journal.shown_append, List.map_append]
    exact h.bests.append later.bests
  · rw [Journal.records_append]
    exact h.trace.append later.trace
  · rw [Journal.records_append, Journal.shown_append, List.map_append, h.debug, later.debug]
  · rw [Journal.records_append, quiet]
    exact later.info
  · rw [Journal.records_append, quiet]
    exact later.last.trans (List.suffix_append _ _)

section Steps
variable {strategies : Strategies P α Float G σ} {observer : Observer P Float ω} {s t : Session P α Float G σ}
  {watcher watcher' : ω} {n : Nat} {journal : Journal P α Float}

open Iteration

theorem Iteration.Course.elite {event : Event P Float} (h : Course strategies s (.ok event) t journal) :
    s.state.settings.numElite ≤ event.eliteCount ∧ event.eliteCount ≤ s.state.settings.numSamples ∧
      event.minScore ≤ event.eliteScore := by
  cases h with
  | completed selects =>
      obtain ⟨le, asked⟩ := Elite.bounds_of_select? (agree_of_numbers selects.number) selects.selected
      exact ⟨asked, selects.count ▸ Elite.length_le_of_select? selects.selected, le⟩

theorem Step.story {made : Outcome P α Float G σ ω (Option (Except SolveError Ending))}
    (h : Step strategies observer s watcher made) (discreet : observer.Discreet)
    (number : s.state.bestScore.isNaN = false) :
    Story s.state.settings s.state.numIters s.state.bestScore made.ending made.session.state made.journal := by
  obtain ⟨trace, debug, info, last, -⟩ := h.logged discreet
  have start : s.best.score.isNaN = false := number
  have seen := Best.le_of_seen h.seen start
  have falls : made.session.state.bestScore ≤ s.state.bestScore := seen
  have shown := h.shown
  obtain ⟨result, t, _, course, state, -⟩ := h.course
  rw [iterate_of_course course] at shown
  cases result with
  | error =>
      have shown : made.journal.shown = [] := shown
      refine ⟨?_, ?_, ?_, trace, debug, info, last⟩
      · rw [shown]
        rfl
      · rw [shown]
        exact nofun
      · rw [shown]
        exact List.pairwise_pair.2 falls
  | ok event =>
      have shown : made.journal.shown = [event] := shown
      have describes : event.Describes made.session.state := state ▸ course.describes
      have iter : event.iter = s.state.numIters + 1 := by
        rw [describes.iter, state]
        exact course.reports.1
      have self := float_le_refl (number_of_le falls).1
      refine ⟨?_, ?_, ?_, trace, debug, info, last⟩
      · rw [shown]
        exact congrArg ([·]) iter
      · rw [shown]
        exact List.forall_mem_singleton.2 course.elite
      · rw [shown, List.map_singleton, describes.bestScore]
        simp [Falls, falls, self]

theorem Story.nil {settings : Settings} {start : Nat} {ending : Option (Except SolveError Ending)}
    {s : State P Float} (number : s.bestScore.isNaN = false) (closing : Closing s ending []) :
    Story settings start s.bestScore ending s ([] : Journal P α Float) :=
  ⟨rfl, nofun, .refl number, .refl, rfl, closing, List.nil_suffix⟩

theorem Proceeds.story (h : Proceeds strategies observer n s watcher t watcher' journal)
    (valid : s.state.settings.validate = .ok ()) (discreet : observer.Discreet)
    (number : s.state.bestScore.isNaN = false) :
    Story s.state.settings s.state.numIters s.state.bestScore none t.state journal := by
  induction h with
  | refl => exact .nil number .goesOn
  | next first _ ih =>
      have course := (step_eq_iff valid).1 first
      have story := course.story discreet number
      obtain ⟨counted, events⟩ := course.counted
      have later := ih (course.settings.symm ▸ valid) (number_of_le story.bests.le).1
      rw [course.settings, counted, ← events] at later
      refine story.append ?_
      rwa [Journal.shown, List.length_map]

theorem Problem.story_of_run {p : Problem P α Float G σ} {limit : Nat}
    {out : Outcome P α Float G σ ω (Except SolveError Ending)}
    (made : p.solveUnder observer watcher limit = some out) (discreet : observer.Discreet)
    (number : p.state.bestScore.isNaN = false) :
    Story p.settings 0 p.state.bestScore (some out.ending) out.session.state out.journal := by
  cases valid : p.settings.validate with
  | error invalid =>
      rw [solveUnder_of_invalid valid] at made
      obtain rfl := Option.some.inj made
      exact .nil number .fails
  | ok =>
      obtain ⟨n, before, watcher', earlier, last, proceeds, settings, final, journal⟩ := p.last_step valid made
      have story : Story p.settings 0 p.state.bestScore none before.state earlier :=
        proceeds.story valid discreet number
      have counted : before.state.numIters = 0 + n := (proceeds.counted valid).1
      have later := final.story discreet (number_of_le story.bests.le).1
      rw [settings, counted, ← proceeds.length_shown valid] at later
      rw [journal]
      exact story.append later

end Steps

section Shown
variable {S : Type} [Score S] {strategies : Strategies P α S G σ} {observer : Observer P S ω} {s t : Session P α S G σ}
  {watcher watcher' : ω} {n k limit : Nat} {journal : Journal P α S} {event : Event P S} {p : Problem P α S G σ}

theorem Proceeds.exists_iterate (h : Proceeds strategies observer n s watcher t watcher' journal)
    (valid : s.state.settings.validate = .ok ()) (shown : journal.shown[k]? = some event) :
    ∃ u between earlier v last, Proceeds strategies observer k s watcher u between earlier ∧
      iterate strategies u = (.ok event, v, last) := by
  induction h generalizing k with
  | refl => cases shown
  | @next _ s _ _ watcher _ _ _ _ first _ ih =>
      have made := (step_eq_iff valid).1 first
      obtain ⟨event', u, last, notes, completed, -, events⟩ := made.proceeds
      rw [Journal.shown_append, Journal.shown, events] at shown
      cases k with
      | zero =>
          obtain rfl : event' = event := Option.some.inj shown
          exact ⟨s, watcher, [], u, last, .refl, completed⟩
      | succ k =>
          obtain ⟨u, between, earlier, v, last, proceeds, completed⟩ := ih (made.settings.symm ▸ valid) shown
          exact ⟨u, between, _, v, last, .next first proceeds, completed⟩

theorem exists_journal_of_run {out : Outcome P α S G σ ω (Except SolveError Ending)}
    (made : runWithin strategies observer limit s watcher = some out) :
    ∃ later, out.journal = (step strategies observer s watcher).journal ++ later := by
  cases limit with
  | zero => cases made
  | succ limit =>
      rw [runWithin] at made
      split at made
      · obtain rfl := Option.some.inj made
        exact ⟨[], (List.append_nil _).symm⟩
      · obtain ⟨rest, -, rfl⟩ := Option.map_eq_some_iff.1 made
        exact ⟨rest.journal, rfl⟩

namespace Problem

theorem Completes.describes {before calls : Journal P α S} {u : Session P α S G σ}
    (h : p.Completes observer watcher k before watcher' calls event u) :
    u.state.numIters = k + 1 ∧ event.Describes u.state := by
  obtain ⟨s, earlier, last, valid, proceeds, -, course, -⟩ := h.course
  have counted : s.state.numIters = 0 + k := (proceeds.counted valid).1
  rw [course.reports.1, counted, Nat.zero_add]
  exact ⟨rfl, course.describes⟩

theorem exists_completes (valid : p.settings.validate = .ok ())
    (h : Proceeds p.strategies observer n p.fresh watcher t watcher' journal) (shown : journal.shown[k]? = some event) :
    ∃ before between calls u, p.Completes observer watcher k before between calls event u := by
  obtain ⟨u, between, earlier, v, last, proceeds, completed⟩ := h.exists_iterate valid shown
  exact ⟨_, _, _, _, .intro valid proceeds completed⟩

theorem completes_of_shown {out : Outcome P α S G σ ω (Except SolveError Ending)}
    (made : p.solveUnder observer watcher limit = some out) (shown : out.journal.shown[k]? = some event) :
    ∃ before between calls u, p.Completes observer watcher k before between calls event u := by
  cases valid : p.settings.validate with
  | error invalid =>
      rw [solveUnder_of_invalid valid] at made
      obtain rfl := Option.some.inj made
      cases shown
  | ok =>
      obtain ⟨n, s, watcher', earlier, last, proceeds, -, final, journal⟩ := p.last_step valid made
      have count := proceeds.length_shown valid
      have one := final.shown
      rw [journal, Journal.shown_append, List.getElem?_append] at shown
      split at shown
      · exact exists_completes valid proceeds shown
      · have shown : last.shown[k - earlier.shown.length]? = some event := shown
        rcases completed : iterate p.strategies s with ⟨_ | event', u, calls⟩
        · have none : last.shown = [] := by rw [one, completed]; rfl
          rw [none] at shown
          cases shown
        · have one : last.shown = [event'] := by rw [one, completed]; rfl
          rw [one, List.getElem?_singleton] at shown
          split at shown
          · obtain rfl : event' = event := Option.some.inj shown
            obtain rfl : k = n := by omega
            exact ⟨_, _, _, _, .intro valid proceeds completed⟩
          · cases shown

theorem shown_of_completes {out : Outcome P α S G σ ω (Except SolveError Ending)} {before calls : Journal P α S}
    {u : Session P α S G σ} (made : p.solveUnder observer watcher limit = some out)
    (h : p.Completes observer watcher k before watcher' calls event u) : out.journal.shown[k]? = some event := by
  obtain ⟨valid, proceeds, completed⟩ := h
  have count := proceeds.length_shown valid
  have settled := proceeds.settled valid
  rw [solveUnder_of_valid valid] at made
  -- A larger limit gives the same run, and leaves room for the iterations before this one.
  have longer := runWithin_mono (Nat.le_add_left limit k) made
  rw [runWithin_of_proceeds proceeds] at longer
  obtain ⟨rest, ran, rfl⟩ := Option.map_eq_some_iff.1 longer
  obtain ⟨later, journal⟩ := exists_journal_of_run ran
  obtain ⟨first, course⟩ := exists_step p.strategies settled observer watcher'
  have shown := course.shown
  rw [completed] at shown
  rw [step_of_step course] at journal
  change (Journal.shown (_ ++ rest.journal))[k]? = _
  rw [journal, Journal.shown_append, Journal.shown_append, shown, List.getElem?_append_right (Nat.le_of_eq count),
    count, Nat.sub_self]
  rfl

end Problem
end Shown

inductive Chronicle : Problem P α Float G σ → Journal P α Float → Prop
  | new (strategies : Strategies P α Float G σ) (params : P) (rng : G) (memory : σ) :
      Chronicle (.new strategies params rng memory) []
  | strategies {p : Problem P α Float G σ} {journal : Journal P α Float} (before : Chronicle p journal)
      (f : Strategies P α Float G σ → Strategies P α Float G σ) : Chronicle (p.withStrategies f) journal
  | settings {p : Problem P α Float G σ} {journal : Journal P α Float} (before : Chronicle p journal)
      (f : Settings → Settings) : Chronicle (p.withSettings f) journal
  | params {p : Problem P α Float G σ} {journal : Journal P α Float} (before : Chronicle p journal) (params : P) :
      Chronicle (p.withParams params) journal
  | rng {p : Problem P α Float G σ} {journal : Journal P α Float} (before : Chronicle p journal) (rng : G) :
      Chronicle (p.withRng rng) journal
  | memory {p : Problem P α Float G σ} {journal : Journal P α Float} (before : Chronicle p journal) (memory : σ) :
      Chronicle (p.withMemory memory) journal
  | run {p : Problem P α Float G σ} {journal : Journal P α Float} {ω : Type} {observer : Observer P Float ω}
      {watcher : ω} {limit : Nat} {out : Outcome P α Float G σ ω (Except SolveError Ending)}
      (before : Chronicle p journal) (discreet : observer.Discreet)
      (made : p.solveUnder observer watcher limit = some out) :
      Chronicle { p with session := out.session } (journal ++ out.journal)

structure Journal.LeadsTo (journal : Journal P α Float) (best : Float) : Prop where
  trace : Improves (1.0 / 0.0) (journal.records .trace) best
  bests : Falls (1.0 / 0.0) (journal.shown.map Event.bestScore) best

theorem Journal.LeadsTo.append {journal later : Journal P α Float} {best : Float} {settings : Settings} {start : Nat}
    {ending : Option (Except SolveError Ending)} {s : State P Float} (h : journal.LeadsTo best)
    (story : Story settings start best ending s later) : Journal.LeadsTo (journal ++ later) s.bestScore := by
  constructor
  · rw [records_append]
    exact h.trace.append story.trace
  · rw [shown_append, List.map_append]
    exact h.bests.append story.bests

theorem Chronicle.leadsTo {p : Problem P α Float G σ} {journal : Journal P α Float} (h : Chronicle p journal) :
    journal.LeadsTo p.state.bestScore := by
  induction h with
  | new => exact ⟨.refl, .refl isNaN_infinity⟩
  | strategies | settings | params | rng | memory => assumption
  | run _ discreet made ih =>
      exact ih.append (Problem.story_of_run made discreet (number_of_le ih.bests.le).1)

/-- In every run of a problem, over or not, failed or not, events and log records have one story, and so have those of
all its runs together. The events are those of the completed iterations, each showing the state that its iteration
leaves, and a progress log adds its records in the iterations that are due. -/
theorem events_and_records_agree :
    (∀ {p : Problem P α Float G σ} {scored : List (Tensor α × Float)} {ω : Type} {observer : Observer P Float ω}
        {watcher : ω}, History p scored → observer.Discreet →
      (∀ {n : Nat} {t : Session P α Float G σ} {watcher' : ω} {journal : Journal P α Float},
        p.settings.validate = .ok () → Proceeds p.strategies observer n p.fresh watcher t watcher' journal →
        Story p.settings 0 p.state.bestScore none t.state journal ∧ journal.shown.length = n) ∧
      ∀ {limit : Nat} {out : Outcome P α Float G σ ω (Except SolveError Ending)},
        p.solveUnder observer watcher limit = some out →
        Story p.settings 0 p.state.bestScore (some out.ending) out.session.state out.journal) ∧
    (∀ {S : Type} [Score S] {p : Problem P α S G σ} {ω : Type} {observer : Observer P S ω} {watcher : ω},
      (∀ {k : Nat} {before calls : Journal P α S} {between : ω} {event : Event P S} {u : Session P α S G σ},
        p.Completes observer watcher k before between calls event u →
        u.state.numIters = k + 1 ∧ event.Describes u.state) ∧
      (∀ {n : Nat} {t : Session P α S G σ} {watcher' : ω} {journal : Journal P α S}, p.settings.validate = .ok () →
        Proceeds p.strategies observer n p.fresh watcher t watcher' journal →
        ∀ k event, journal.shown[k]? = some event →
          ∃ before between calls u, p.Completes observer watcher k before between calls event u) ∧
      ∀ {limit : Nat} {out : Outcome P α S G σ ω (Except SolveError Ending)},
        p.solveUnder observer watcher limit = some out →
        ∀ k event, out.journal.shown[k]? = some event ↔
          ∃ before between calls u, p.Completes observer watcher k before between calls event u) ∧
    (∀ {S : Type} [Score S] {p : Problem P α S G σ} (interval : Nat),
      (∀ {n : Nat} {t : Session P α S G σ} {journal : Journal P α S}, p.settings.validate = .ok () →
        Proceeds p.strategies (ProgressLog.every interval).toObserver n p.fresh () t () journal →
        journal.remarks = journal.progress interval) ∧
      ∀ {limit : Nat} {out : Outcome P α S G σ Unit (Except SolveError Ending)},
        p.solveUnder (ProgressLog.every interval).toObserver () limit = some out →
        out.journal.remarks = out.journal.progress interval) ∧
    (∀ {p : Problem P α Float G σ} {journal : Journal P α Float}, Chronicle p journal →
      journal.LeadsTo p.state.bestScore ∧
      ∀ {ω : Type} {observer : Observer P Float ω} {watcher watcher' : ω} {n : Nat} {t : Session P α Float G σ}
          {later : Journal P α Float}, observer.Discreet → p.settings.validate = .ok () →
        Proceeds p.strategies observer n p.fresh watcher t watcher' later →
        Journal.LeadsTo (journal ++ later) t.state.bestScore) ∧
    ∀ {journal : Journal P α Float} {best : Float}, journal.LeadsTo best →
      ∃ minima : List (Nat × Float), journal.records .trace = minima.map (fun m => .newMinimum m.1 m.2) ∧
        (minima.map Prod.snd).Pairwise (fun x y => y < x) ∧ (minima.map Prod.snd).getLastD (1.0 / 0.0) = best := by
  refine ⟨fun {p scored ω observer watcher} history discreet => ⟨?_, ?_⟩,
    fun {S _ p ω observer watcher} => ⟨Problem.Completes.describes, ?_, ?_⟩, fun {S _ p} interval => ⟨?_, ?_⟩,
    fun {p journal} chronicle => ⟨chronicle.leadsTo, ?_⟩, ?_⟩
  · intro n t watcher' journal valid proceeds
    exact ⟨proceeds.story valid discreet history.number, proceeds.length_shown valid⟩
  · intro limit out made
    exact Problem.story_of_run made discreet history.number
  · intro n t watcher' journal valid proceeds k event
    exact Problem.exists_completes valid proceeds
  · intro limit out made k event
    refine ⟨Problem.completes_of_shown made, ?_⟩
    rintro ⟨before, between, calls, u, completes⟩
    exact Problem.shown_of_completes made completes
  · intro n t journal valid proceeds
    exact (proceeds.remarks (ProgressLog.toObserver_discreet _) valid).trans
      (ProgressLog.flatMap_observe interval journal)
  · intro limit out made
    exact (Problem.remarks_of_run (ProgressLog.toObserver_discreet _) made).trans
      (ProgressLog.flatMap_observe interval out.journal)
  · intro ω observer watcher watcher' n t later discreet valid proceeds
    have told := chronicle.leadsTo
    exact told.append (proceeds.story valid discreet (number_of_le told.bests.le).1)
  · intro journal best leads
    obtain ⟨minima, records, falls, last⟩ := leads.trace.minima
    exact ⟨minima, records, (List.pairwise_cons.1 falls).2, last⟩

def swinging : Problem Nat Float Float Unit Nat :=
  .new
    { generator := some fun _ rng memory => (.ok (Tensor.vector [1.5]), rng, memory)
      scorer := some (.table #[2.5, 1.5, 3.5])
      estimator := some fun _ shown memory => (.ok (shown.params + 1), memory) }
    0 () 0

theorem agree_of_swinging :
    let p := swinging.withSettings fun _ => { numSamples := 1, numElite := 1, maxIters := some 3, trackBest := true }
    let observer : Observer Nat Float Unit := (ProgressLog.every 2).toObserver
    (∃ out, p.solveUnder observer () 3 = some out ∧
      Story p.settings 0 (1.0 / 0.0) (some (.ok .stopRule)) out.session.state out.journal ∧
      out.journal.records .trace = [.newMinimum 0 2.5, .newMinimum 0 1.5] ∧
      out.journal.records .info = [.finished 3 3.5] ∧ out.journal.progress 2 = [.progress 2 1.5 1.5] ∧
      (∃ before between calls event u, p.Completes observer () 1 before between calls event u ∧
        event.Describes u.state ∧ event.params = 2) ∧
      out.journal.LeadsTo 1.5 ∧ ∃ minima : List (Nat × Float), minima.length = 2 ∧
        (minima.map Prod.snd).Pairwise (fun x y => y < x) ∧ (minima.map Prod.snd).getLastD (1.0 / 0.0) = 1.5) ∧
    ∃ t journal, Proceeds p.strategies observer 1 p.fresh () t () journal ∧
      Story p.settings 0 (1.0 / 0.0) none t.state journal ∧ journal.remarks = [] ∧ Journal.LeadsTo journal 2.5 := by
  intro p observer
  have history : History p [] := (History.new _ _ _ _).next (.settings _)
  have chronicle : Chronicle p [] := .settings (.new _ _ _ _) _
  have discreet : observer.Discreet := ProgressLog.toObserver_discreet _
  obtain ⟨stories, shown, progress, lives, minima⟩ := @events_and_records_agree Nat Float Unit Nat
  constructor
  · have leaves : (p.solveUnder observer () 3).map (fun out =>
        (out.ending.toOption, out.session.state.bestScore, out.journal.shown[1]?.map Event.params)) =
          some (some .stopRule, 1.5, some 2) := by decide +kernel
    have logs : (p.solveUnder observer () 3).map (fun out =>
        (out.journal.records .trace, out.journal.records .info, out.journal.remarks)) =
          some ([.newMinimum 0 2.5, .newMinimum 0 1.5], [.finished 3 3.5], [.progress 2 1.5 1.5]) := by decide +kernel
    obtain ⟨out, made, results⟩ := Option.map_eq_some_iff.1 leaves
    rw [made, Option.map_some, Option.some.injEq] at logs
    simp only [Prod.mk.injEq] at results logs
    obtain ⟨ending, best, second⟩ := results
    obtain ⟨trace, info, remarks⟩ := logs
    have ended : out.ending = .ok .stopRule := by
      cases result : out.ending with
      | error => rw [result] at ending; cases ending
      | ok => rw [result] at ending; exact congrArg Except.ok (Option.some.inj ending)
    obtain ⟨event, told, params⟩ := Option.map_eq_some_iff.1 second
    obtain ⟨before, between, calls, u, completes⟩ := (shown.2.2 made 1 event).1 told
    have lead : out.journal.LeadsTo 1.5 := best ▸ (lives (.run chronicle discreet made)).1
    obtain ⟨scores, records, falls, last⟩ := minima lead
    have two : scores.length = 2 := by simpa [trace] using (congrArg List.length records).symm
    have story := (stories history discreet).2 made
    rw [ended] at story
    refine ⟨out, made, story, trace, info, ((progress 2).2 made).symm.trans remarks,
      ⟨before, between, calls, event, u, completes, (shown.1 completes).2, params⟩, lead, scores, two, falls, last⟩
  · have goesOn : (step p.strategies observer p.fresh ()).ending.isNone = true ∧
        (step p.strategies observer p.fresh ()).session.state.bestScore = 2.5 ∧
        (step p.strategies observer p.fresh ()).journal.remarks = [] := by decide +kernel
    rcases first : step p.strategies observer p.fresh () with ⟨ending, t, nobody, journal⟩
    rw [first] at goesOn
    obtain ⟨undecided, best, remarks⟩ := goesOn
    obtain rfl : ending = none := Option.isNone_iff_eq_none.1 undecided
    have proceeds : Proceeds p.strategies observer 1 p.fresh () t () (journal ++ []) := .next first .refl
    rw [List.append_nil] at proceeds
    have lead := (lives chronicle).2 discreet rfl proceeds
    exact ⟨t, journal, proceeds, ((stories history discreet).1 rfl proceeds).1, remarks, best ▸ lead⟩

end CrossEntropy
