import CrossEntropy.Proofs.IterationLimit
import CrossEntropy.Search.Stock
import CrossEntropy.Watch.ProgressLog

namespace CrossEntropy
variable {P α S G σ ω : Type}

def LogRecord.ofSearch : LogRecord S → Bool
  | newMinimum .. | iteration .. | stoppedByObserver .. | finished .. => true
  | spreadConverged .. | progress .. => false

namespace Observer

/-- An observer that writes no record of a kind that the search writes. -/
def Discreet (observer : Observer P S ω) : Prop :=
  ∀ event watcher, ∀ note ∈ (observer event watcher).2.1, note.ofSearch = false

end Observer

theorem ProgressLog.toObserver_discreet (l : ProgressLog) : (l.toObserver : Observer P S Unit).Discreet := by
  intro event _ note member
  change note ∈ l.observe event at member
  rw [observe] at member
  split at member
  · rw [List.mem_singleton.1 member]
    rfl
  · cases member

namespace Journal

def shown (journal : Journal P α S) : List (Event P S) := journal.events.map Prod.fst

def records (journal : Journal P α S) (level : Level) : List (LogRecord S) :=
  journal.logs.filter fun record => record.ofSearch && record.level == level

def remarks (journal : Journal P α S) : List (LogRecord S) := journal.logs.filter fun record => !record.ofSearch

variable (first rest : Journal P α S)

@[simp] theorem logs_append : (first ++ rest).logs = first.logs ++ rest.logs :=
  List.filterMap_append

@[simp] theorem shown_append : (first ++ rest).shown = first.shown ++ rest.shown := by
  rw [shown, events_append, List.map_append]
  rfl

@[simp] theorem records_append (level : Level) :
    (first ++ rest).records level = first.records level ++ rest.records level := by
  rw [records, logs_append, List.filter_append]
  rfl

@[simp] theorem remarks_append : (first ++ rest).remarks = first.remarks ++ rest.remarks := by
  rw [remarks, logs_append, List.filter_append]
  rfl

@[simp] theorem logs_map_log (notes : List (LogRecord S)) : logs (notes.map .log : Journal P α S) = notes := by
  induction notes with
  | nil => rfl
  | cons note notes ih => exact congrArg (note :: ·) ih

end Journal

def Event.record (event : Event P S) : LogRecord S :=
  .iteration event.iter event.minScore event.eliteScore event.eliteCount

/-- Records of new minima, each lower than the one before, that lead from one best-ever score to another. -/
inductive Improves [Score S] : S → List (LogRecord S) → S → Prop
  | refl {best : S} : Improves best [] best
  | lower {best score last : S} {index : Nat} {records : List (LogRecord S)} (lower : score < best)
      (rest : Improves score records last) : Improves best (.newMinimum index score :: records) last

inductive Closing (s : State P S) : Option (Except SolveError Ending) → List (LogRecord S) → Prop
  | goesOn : Closing s none []
  | fails {e : SolveError} : Closing s (some (.error e)) []
  | stopped : Closing s (some (.ok .observer)) [.stoppedByObserver s.numIters]
  | finished {low : S} (lowest : s.minScore = some low) :
      Closing s (some (.ok .stopRule)) [.finished s.numIters low]

theorem Closing.kind {s : State P S} {ending : Option (Except SolveError Ending)} {records : List (LogRecord S)}
    (h : Closing s ending records) : ∀ record ∈ records, record.ofSearch = true ∧ record.level = .info := by
  cases h with
  | goesOn | fails => exact nofun
  | stopped | finished => exact List.forall_mem_singleton.2 ⟨rfl, rfl⟩

section Kinds
variable {records : List (LogRecord S)} {kind : Level}

theorem filter_of_kind (all : ∀ record ∈ records, record.ofSearch = true ∧ record.level = kind) (level : Level) :
    records.filter (fun record => record.ofSearch && record.level == level) = if kind = level then records else [] := by
  split
  · refine List.filter_eq_self.2 fun record member => ?_
    simp_all
  · refine List.filter_eq_nil_iff.2 fun record member => ?_
    simp_all

theorem filter_not_of_kind (all : ∀ record ∈ records, record.ofSearch = true ∧ record.level = kind) :
    records.filter (fun record => !record.ofSearch) = [] :=
  List.filter_eq_nil_iff.2 fun record member => by simp [all record member]

end Kinds

namespace Improves
variable [Score S] {best between last : S} {records later : List (LogRecord S)}

theorem append (h : Improves best records between) (rest : Improves between later last) :
    Improves best (records ++ later) last := by
  induction h with
  | refl => exact rest
  | lower lower _ ih => exact .lower lower (ih rest)

theorem kind (h : Improves best records last) :
    ∀ record ∈ records, record.ofSearch = true ∧ record.level = .trace := by
  induction h with
  | refl => exact nofun
  | lower _ _ ih => exact List.forall_mem_cons.2 ⟨⟨rfl, rfl⟩, ih⟩

theorem scoring (track : Bool) (best : Best α S) (index : Nat) (pairs : List (Tensor α × S)) :
    Improves best.score (Journal.scoring (P := P) track best index pairs).logs (best.seeAll track pairs).score := by
  induction pairs generalizing best index with
  | nil => exact .refl
  | cons pair pairs ih =>
      have rest := ih (best.see track pair) (index + 1)
      change Improves _ (Journal.logs (_ ++ _)) _
      rw [Journal.logs_append, Best.seeAll_cons]
      by_cases better : track = true ∧ pair.2 < best.score
      · rw [if_pos better]
        rw [Best.see, if_pos better] at rest ⊢
        exact .lower better.2 rest
      · rw [if_neg better]
        rw [Best.see, if_neg better] at rest ⊢
        exact rest

end Improves

section Steps
variable [Score S] {strategies : Strategies P α S G σ} {observer : Observer P S ω} {s t : Session P α S G σ}
  {watcher : ω} {journal : Journal P α S}

open Iteration

theorem Iteration.improves_scored (s : Session P α S G σ) (pairs : List (Tensor α × S)) :
    Improves s.best.score (scoring s 0 pairs).logs (s.best.seeAll s.state.settings.trackBest pairs).score :=
  .scoring ..

theorem Iteration.Selects.improves {batch chosen : Tensor α} {scores : List S} {elite : Elite S}
    (h : Selects strategies s batch scores elite chosen t journal) :
    Improves s.best.score journal.logs t.best.score := by
  cases h with
  | intro drawn =>
      have start : _ = s.best := drawn.best
      rw [← start]
      exact improves_scored ..

theorem Iteration.Course.logs {result : Except SolveError (Event P S)} (h : Course strategies s result t journal) :
    ∃ minima, Improves s.best.score minima t.best.score ∧
      journal.logs = minima ++ result.toOption.toList.map Event.record := by
  cases h with
  | undrawn fails =>
      have best := fails.best
      refine ⟨[], ?_, by cases fails <;> rfl⟩
      rw [best]
      exact .refl
  | @unscored _ _ _ _ last drawn fails =>
      have start : _ = s.best := drawn.best
      refine ⟨last.logs, ?_, (List.append_nil _).symm⟩
      rw [← start]
      cases fails with
      | missing => exact .refl
      | rejected =>
          rw [Journal.logs_append]
          exact (improves_scored ..).append .refl
  | unestimated selects fails =>
      refine ⟨_, ?_, by rw [Journal.logs_append]; cases fails <;> rfl⟩
      rw [fails.best]
      exact selects.improves
  | unupdated selects estimates fails =>
      refine ⟨_, ?_, by rw [Journal.logs_append]; cases fails; rfl⟩
      rw [fails.best, estimates.best]
      exact selects.improves
  | @completed _ _ _ _ _ _ _ _ _ v _ selects estimates updates =>
      refine ⟨_, ?_, by rw [Journal.logs_append]; cases updates <;> rfl⟩
      change Improves _ _ v.best.score
      rw [updates.best, estimates.best]
      exact selects.improves

omit [Score S] in
theorem Decides.logs {stop : Bool} (h : Decides strategies s stop t journal) : journal.logs = [] := by
  cases h <;> rfl

omit [Score S] in
theorem logs_reported (journal : Journal P α S) (event : Event P S) (verdict : Verdict) (notes : List (LogRecord S)) :
    (reported journal event verdict notes).logs = journal.logs ++ notes := by
  rw [reported, Journal.logs_append]
  exact congrArg (journal.logs ++ ·) (Journal.logs_map_log notes)

omit [Score S] in
theorem shown_reported {event : Event P S} {verdict : Verdict} {notes : List (LogRecord S)}
    (quiet : journal.events = []) : (reported journal event verdict notes).shown = [event] := by
  rw [Journal.shown, reported_events quiet]
  rfl

theorem Step.shown {made : Outcome P α S G σ ω (Option (Except SolveError Ending))}
    (h : Step strategies observer s watcher made) :
    made.journal.shown = (iterate strategies s).1.toOption.toList := by
  cases h with
  | fails course =>
      rw [iterate_of_course course, Journal.shown, course.events]
      rfl
  | stopped course =>
      rw [iterate_of_course course, Journal.shown_append, shown_reported course.events]
      rfl
  | undecided course =>
      rw [iterate_of_course course, shown_reported course.events]
      rfl
  | ends course _ decides =>
      rw [iterate_of_course course, Journal.shown_append, Journal.shown_append, shown_reported course.events,
        Journal.shown, decides.events]
      rfl
  | goesOn course _ decides =>
      rw [iterate_of_course course, Journal.shown_append, shown_reported course.events, Journal.shown, decides.events]
      rfl

theorem Step.logs {made : Outcome P α S G σ ω (Option (Except SolveError Ending))}
    (h : Step strategies observer s watcher made) :
    ∃ minima closing, Improves s.best.score minima made.session.best.score ∧
      Closing made.session.state made.ending closing ∧ closing.map .log <:+ made.journal ∧
      made.journal.logs = minima ++ (made.journal.shown.map Event.record ++
        (made.journal.shown.flatMap (fun event => (observer event watcher).2.1) ++ closing)) := by
  have shown := h.shown
  cases h with
  | fails course =>
      obtain ⟨minima, improves, logs⟩ := course.logs
      rw [iterate_of_course course] at shown
      refine ⟨minima, [], improves, .fails, List.nil_suffix, ?_⟩
      simp only [shown, logs, Except.toOption, Option.toList_none, List.map_nil, List.flatMap_nil, List.append_nil]
  | stopped course answer =>
      obtain ⟨minima, improves, logs⟩ := course.logs
      rw [iterate_of_course course] at shown
      refine ⟨minima, _, improves, .stopped, List.suffix_append _ _, ?_⟩
      simp only [shown, Journal.logs_append, logs_reported, logs]
      simp [Except.toOption, answer, Journal.logs]
  | undecided course answer =>
      obtain ⟨minima, improves, logs⟩ := course.logs
      rw [iterate_of_course course] at shown
      refine ⟨minima, [], improves, .fails, List.nil_suffix, ?_⟩
      simp only [shown, logs_reported, logs]
      simp [Except.toOption, answer]
  | ends course answer decides =>
      obtain ⟨minima, improves, logs⟩ := course.logs
      have lowest := course.reports.2.1
      rw [iterate_of_course course] at shown
      rw [← decides.state] at lowest
      rw [← decides.best] at improves
      refine ⟨minima, _, improves, .finished lowest, List.suffix_append _ _, ?_⟩
      simp only [shown, Journal.logs_append, logs_reported, logs, decides.logs]
      simp [Except.toOption, answer, Journal.logs]
  | goesOn course answer decides =>
      obtain ⟨minima, improves, logs⟩ := course.logs
      rw [iterate_of_course course] at shown
      rw [← decides.best] at improves
      refine ⟨minima, [], improves, .goesOn, List.nil_suffix, ?_⟩
      simp only [shown, Journal.logs_append, logs_reported, logs, decides.logs]
      simp [Except.toOption, answer]

structure Step.Logged (observer : Observer P S ω) (watcher : ω) (s : Session P α S G σ)
    (made : Outcome P α S G σ ω (Option (Except SolveError Ending))) : Prop where
  trace : Improves s.best.score (made.journal.records .trace) made.session.best.score
  debug : made.journal.records .debug = made.journal.shown.map Event.record
  info : Closing made.session.state made.ending (made.journal.records .info)
  last : (made.journal.records .info).map .log <:+ made.journal
  remarks : made.journal.remarks = made.journal.shown.flatMap fun event => (observer event watcher).2.1

theorem Step.logged {made : Outcome P α S G σ ω (Option (Except SolveError Ending))}
    (h : Step strategies observer s watcher made) (discreet : observer.Discreet) :
    Step.Logged observer watcher s made := by
  obtain ⟨minima, closing, improves, closes, last, logs⟩ := h.logs
  have debug : ∀ record ∈ made.journal.shown.map Event.record, record.ofSearch = true ∧ record.level = .debug := by
    intro record member
    obtain ⟨event, -, rfl⟩ := List.mem_map.1 member
    exact ⟨rfl, rfl⟩
  have noted : ∀ record ∈ made.journal.shown.flatMap (fun event => (observer event watcher).2.1),
      record.ofSearch = false := by
    intro record member
    obtain ⟨event, -, note⟩ := List.mem_flatMap.1 member
    exact discreet event watcher record note
  have records (level : Level) : made.journal.records level = (if Level.trace = level then minima else []) ++
      ((if Level.debug = level then made.journal.shown.map Event.record else []) ++
        (if Level.info = level then closing else [])) := by
    rw [Journal.records, logs, List.filter_append, List.filter_append, List.filter_append,
      filter_of_kind improves.kind, filter_of_kind debug, filter_of_kind closes.kind,
      List.filter_eq_nil_iff.2 fun record note => by simp [noted record note], List.nil_append]
  have info : made.journal.records .info = closing := by simp [records]
  refine ⟨by simpa [records] using improves, by simp [records], info ▸ closes, info ▸ last, ?_⟩
  rw [Journal.remarks, logs, List.filter_append, List.filter_append, List.filter_append,
    filter_not_of_kind improves.kind, filter_not_of_kind debug, filter_not_of_kind closes.kind,
    List.filter_eq_self.2 fun record note => by simp [noted record note], List.append_nil]
  rfl

theorem Proceeds.length_shown {n : Nat} {watcher' : ω}
    (h : Proceeds strategies observer n s watcher t watcher' journal) (valid : s.state.settings.validate = .ok ()) :
    journal.shown.length = n :=
  (List.length_map _).trans (h.counted valid).2

theorem Proceeds.remarks {observer : Observer P S Unit} {n : Nat} {nobody nobody' : Unit}
    (h : Proceeds strategies observer n s nobody t nobody' journal) (discreet : observer.Discreet)
    (valid : s.state.settings.validate = .ok ()) :
    journal.remarks = journal.shown.flatMap fun event => (observer event ()).2.1 := by
  induction h with
  | refl => rfl
  | next first _ ih =>
      have course := (step_eq_iff valid).1 first
      have remarks := (course.logged discreet).remarks
      rw [Journal.remarks_append, Journal.shown_append, List.flatMap_append, ih (course.settings.symm ▸ valid)]
      exact congrArg (· ++ _) remarks

theorem Problem.remarks_of_run {observer : Observer P S Unit} {p : Problem P α S G σ} {limit : Nat}
    {out : Outcome P α S G σ Unit (Except SolveError Ending)} (discreet : observer.Discreet)
    (made : p.solveUnder observer () limit = some out) :
    out.journal.remarks = out.journal.shown.flatMap fun event => (observer event ()).2.1 := by
  cases valid : p.settings.validate with
  | error invalid =>
      rw [solveUnder_of_invalid valid] at made
      obtain rfl := Option.some.inj made
      rfl
  | ok =>
      obtain ⟨_, _, _, _, _, proceeds, -, final, journal⟩ := p.last_step valid made
      have remarks := (final.logged discreet).remarks
      rw [journal, Journal.remarks_append, Journal.shown_append, List.flatMap_append, proceeds.remarks discreet valid]
      exact congrArg (_ ++ ·) remarks

end Steps

/-- The remarks of a progress log: one on each event whose number is a multiple of the interval, or of one if the
interval is zero. -/
def Journal.progress (interval : Nat) (journal : Journal P α S) : List (LogRecord S) :=
  (journal.shown.filter fun event => max interval 1 ∣ event.iter).map fun event =>
    .progress event.iter event.minScore event.eliteScore

theorem ProgressLog.flatMap_observe (interval : Nat) (journal : Journal P α S) :
    journal.shown.flatMap (every interval).observe = journal.progress interval := by
  rw [Journal.progress]
  generalize journal.shown = events
  have least : (every interval).interval = max interval 1 := rfl
  induction events with
  | nil => rfl
  | cons event events ih =>
      rw [List.flatMap_cons, ih, observe, least, List.filter_cons]
      by_cases due : max interval 1 ∣ event.iter
      · rw [if_pos (Nat.mod_eq_zero_of_dvd due), if_pos (decide_eq_true due)]
        rfl
      · rw [if_neg fun zero => due (Nat.dvd_of_mod_eq_zero zero), if_neg fun divides => due (of_decide_eq_true divides)]
        rfl

end CrossEntropy
