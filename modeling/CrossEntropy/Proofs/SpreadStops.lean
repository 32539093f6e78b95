import Mathlib.Data.EReal.Operations
import CrossEntropy.Proofs.BatchOrder
import CrossEntropy.Proofs.Chronicle
import CrossEntropy.Watch.EliteSpread

namespace CrossEntropy
variable {P α S G σ ω : Type}

section Stopping
variable [Score S]

def Problem.Reaches (p : Problem P α S G σ) (i : Nat) (calls : Journal P α S) (event : Event P S) : Prop :=
  ∃ k before u, k + 1 = i ∧ p.Completes .silent () k before () calls event u

def Problem.StoppedAfter (p : Problem P α S G σ) (observer : Observer P S ω) (watcher : ω) (i : Nat) : Prop :=
  ∃ limit out, p.solveUnder observer watcher limit = some out ∧ out.ending = .ok .observer ∧
    out.session.state.numIters = i

variable {p : Problem P α S G σ} {observer : Observer P S ω} {watcher watcher' between : ω} {k i : Nat}
  {before before' calls calls' : Journal P α S} {event event' : Event P S} {u u' : Session P α S G σ}

namespace Problem

theorem Completes.event_unique (h : p.Completes observer watcher k before between calls event u)
    (h' : p.Completes observer watcher k before' watcher' calls' event' u') : event = event' := by
  obtain ⟨-, proceeds, completed⟩ := h
  obtain ⟨-, proceeds', completed'⟩ := h'
  obtain ⟨rfl, -, -⟩ := proceeds.unique proceeds'
  exact Except.ok.inj (Prod.mk.inj (completed.symm.trans completed')).1

theorem Completes.mem_shown_iff (h : p.Completes observer watcher k before between calls event u) :
    event' ∈ before.shown ↔ ∃ j < k, ∃ before' between' calls' u',
      p.Completes observer watcher j before' between' calls' event' u' := by
  obtain ⟨valid, proceeds, -⟩ := h
  have count := proceeds.length_shown valid
  rw [Journal.shown, Journal.events_calls, ← Journal.shown]
  constructor
  · intro member
    obtain ⟨j, inside, rfl⟩ := List.getElem_of_mem member
    exact ⟨j, count ▸ inside, exists_completes valid proceeds (List.getElem?_eq_getElem inside)⟩
  · rintro ⟨j, lt, before', between', calls', u', completes⟩
    have entry := List.getElem?_eq_getElem (count.symm ▸ lt)
    obtain ⟨_, _, _, _, other⟩ := exists_completes valid proceeds entry
    obtain rfl := completes.event_unique other
    exact List.mem_of_getElem? entry

theorem stoppedAfter_iff : p.StoppedAfter observer watcher i ↔
    ∃ k before between calls event u, k + 1 = i ∧ p.Completes observer watcher k before between calls event u ∧
      (observer event between).1 = .stop := by
  constructor
  · rintro ⟨limit, out, made, ended, counted⟩
    cases valid : p.settings.validate with
    | error invalid =>
        rw [solveUnder_of_invalid valid] at made
        obtain rfl := Option.some.inj made
        cases ended
    | ok =>
        obtain ⟨n, s, between, earlier, last, proceeds, -, final, -⟩ := p.last_step valid made
        rw [ended] at final
        generalize session : out.session = t at final
        cases final with
        | stopped course answer =>
            have completes := Completes.intro valid proceeds (Iteration.iterate_of_course course)
            obtain ⟨counts, -⟩ := completes.describes
            exact ⟨n, _, between, _, _, _, counts.symm.trans (session ▸ counted), completes, congrArg Prod.fst answer⟩
  · rintro ⟨k, before, between, calls, event, u, rfl, completes, stops⟩
    rcases answer : observer event between with ⟨verdict, notes, watcher'⟩
    obtain rfl : verdict = .stop := (congrArg Prod.fst answer).symm.trans stops
    obtain ⟨out, made, leaves, -⟩ := completes.stopped answer
    obtain ⟨ended, rest⟩ := Prod.mk.inj leaves
    obtain ⟨session, -⟩ := Prod.mk.inj rest
    exact ⟨k + 1, out, made (k + 1) (Nat.lt_succ_self k), ended, session ▸ completes.describes.1⟩

end Problem

section Converging
variable [Sub S] {e : EliteSpread S}

/-- The run would complete this iteration unobserved, and it is not exempted and has a spread within the tolerance. -/
def Problem.ConvergesAt (p : Problem P α S G σ) (e : EliteSpread S) (i : Nat) : Prop :=
  e.minIters ≤ i ∧ ∃ calls event, p.Reaches i calls event ∧ event.eliteScore - event.minScore ≤ e.tolerance

namespace EliteSpread

theorem stops_iff {nobody : Unit} : (e.toObserver event nobody).1 = .stop ↔
    e.minIters ≤ event.iter ∧ event.eliteScore - event.minScore ≤ e.tolerance := by
  rw [toObserver, observe]
  split
  · next converged => exact iff_of_true rfl converged
  · next ongoing => exact iff_of_false nofun ongoing

theorem pass_eq_some_iff {events : List (Event P S)} :
    e.toObserver.pass events () = some () ↔ ∀ event ∈ events, (e.toObserver event ()).1 ≠ .stop := by
  induction events with
  | nil => exact iff_of_true rfl (List.forall_mem_nil _)
  | cons event events ih =>
      rw [List.forall_mem_cons, ← ih, Observer.pass]
      rcases e.toObserver event () with ⟨verdict, notes, nobody⟩
      cases verdict with
      | proceed =>
          have goes : Verdict.proceed ≠ .stop := by decide
          exact (and_iff_right goes).symm
      | stop => exact iff_of_false (Option.some_ne_none ()).symm fun both => both.1 rfl

end EliteSpread

namespace Problem

theorem Completes.stops_iff {nobody : Unit} (h : p.Completes .silent () k before nobody calls event u) :
    (e.toObserver event ()).1 = .stop ↔ p.ConvergesAt e (k + 1) := by
  obtain ⟨counted, described⟩ := h.describes
  rw [EliteSpread.stops_iff, described.iter, counted]
  constructor
  · rintro ⟨late, close⟩
    exact ⟨late, calls, event, ⟨k, before, u, rfl, h⟩, close⟩
  · rintro ⟨late, calls', event', ⟨j, before', u', same, completes⟩, close⟩
    obtain rfl : j = k := Nat.succ.inj same
    exact ⟨late, h.event_unique completes ▸ close⟩

theorem completes_iff {nobody : Unit} : p.Completes e.toObserver () k before nobody calls event u ↔
    p.Completes .silent () k before () calls event u ∧ ∀ j < k, ¬p.ConvergesAt e (j + 1) := by
  -- The observer has let the events before go by, and these are the events of the iterations before.
  rw [Completes.lockstep]
  refine and_congr_right fun completes => ?_
  rw [EliteSpread.pass_eq_some_iff]
  constructor
  · intro passes j lt converges
    obtain ⟨-, calls', event', ⟨_, before', u', same, earlier⟩, -⟩ := id converges
    obtain rfl := Nat.succ.inj same
    exact passes event' (completes.mem_shown_iff.2 ⟨_, lt, _, _, _, _, earlier⟩) (earlier.stops_iff.2 converges)
  · intro ongoing event' member
    obtain ⟨j, lt, _, _, _, _, earlier⟩ := completes.mem_shown_iff.1 member
    exact fun stops => ongoing j lt (earlier.stops_iff.1 stops)

theorem stoppedAfter_iff_isLeast : p.StoppedAfter e.toObserver () i ↔ IsLeast {i | p.ConvergesAt e i} i := by
  rw [stoppedAfter_iff]
  constructor
  · rintro ⟨k, before, nobody, calls, event, u, rfl, completes, stops⟩
    obtain ⟨silent, ongoing⟩ := completes_iff.1 completes
    refine ⟨silent.stops_iff.1 stops, fun j converges => ?_⟩
    obtain ⟨-, _, _, ⟨j, _, _, rfl, -⟩, -⟩ := id converges
    exact Nat.succ_le_succ (Nat.le_of_not_lt fun lt => ongoing j lt converges)
  · rintro ⟨converges, first⟩
    obtain ⟨-, calls, event, ⟨k, before, u, rfl, completes⟩, -⟩ := id converges
    have ongoing : ∀ j < k, ¬p.ConvergesAt e (j + 1) :=
      fun j lt earlier => Nat.not_succ_le_self k (Nat.le_trans (first earlier) lt)
    exact ⟨k, before, (), calls, event, u, rfl, completes_iff.2 ⟨completes, ongoing⟩, completes.stops_iff.2 converges⟩

end Problem
end Converging

/-- The elite of an iteration with these calls: the estimator is given the scored samples with the numbers in it. -/
structure Journal.Picks (calls : Journal P α S) (numElite : Nat) (elite : Elite S) : Prop where
  selected : Elite.select? (calls.scored.map Prod.snd) numElite = some elite
  given : ∃ chosen shown, .estimate chosen shown ∈ calls ∧
    elite.indices.mapM ((calls.scored.map Prod.fst)[·]?) = some chosen.rows

section Iterations
open Iteration
variable {strategies : Strategies P α S G σ} {s : Session P α S G σ} {journal : Journal P α S}

theorem Iteration.Course.selects (h : Course strategies s (.ok event) u journal) :
    ∃ batch scores elite chosen t first, Selects strategies s batch scores elite chosen t first ∧
      journal.calls.scored.map Prod.fst = batch.rows ∧ journal.calls.scored.map Prod.snd = scores ∧
      .estimate chosen t.state ∈ journal.calls ∧ event.minScore = elite.minScore ∧
      event.eliteScore = elite.eliteScore := by
  cases h with
  | @completed batch scores elite chosen t first _ _ _ _ last selects _ updates =>
      have pairs (note : LogRecord S) : (Journal.calls (first ++ .estimate chosen t.state ::
          (last ++ [.log note]))).scored = batch.rows.zip scores := by
        have quiet : Journal.scored (.estimate chosen t.state :: (last ++ [.log note])) = [] := by cases updates <;> rfl
        rw [Journal.scored_calls, Journal.scored_append, selects.pairs, quiet, List.append_nil]
      refine ⟨batch, scores, elite, chosen, t, first, selects, ?_, ?_, ?_, rfl, rfl⟩
      · rw [pairs, List.map_fst_zip (Nat.le_of_eq selects.length_eq.symm)]
      · rw [pairs, List.map_snd_zip (Nat.le_of_eq selects.length_eq)]
      · exact List.mem_filter.2 ⟨List.mem_append_right _ (.head _), rfl⟩

theorem Iteration.Course.picks (h : Course strategies s (.ok event) u journal) :
    ∃ elite, journal.calls.Picks s.state.settings.numElite elite ∧ event.minScore = elite.minScore ∧
      event.eliteScore = elite.eliteScore := by
  obtain ⟨batch, scores, elite, chosen, t, first, selects, samples, values, given, low, bound⟩ := h.selects
  refine ⟨elite, ⟨values ▸ selects.selected, chosen, t.state, given, ?_⟩, low, bound⟩
  rw [samples, selects.chosen.1, Elite.indices_of_select? selects.selected]
  exact Elite.mapM_admitted _ selects.length_eq.symm

theorem Iteration.Course.answers (h : Course strategies s (.ok event) u journal) :
    ∃ scorer memory last, strategies.scorer = some scorer ∧
      Scores scorer memory (journal.calls.scored.map Prod.fst) (journal.calls.scored.map Prod.snd) last := by
  obtain ⟨batch, scores, elite, chosen, t, first, selects, samples, values, -⟩ := h.selects
  rw [samples, values]
  cases selects with
  | intro _ installed all => exact ⟨_, _, _, installed, all⟩

end Iterations

theorem Scores.forall_mem {scorer : Scorer α S σ} {memory last : σ} {samples : List (Tensor α)} {scores : List S}
    {good : S → Prop} (answers : ∀ {sample memory score next}, scorer sample memory = (.ok score, next) → good score)
    (h : Scores scorer memory samples scores last) : ∀ score ∈ scores, good score := by
  induction h with
  | nil => exact nofun
  | cons returned _ _ ih => exact List.forall_mem_cons.2 ⟨answers returned, ih⟩

theorem Problem.Completes.picks (h : p.Completes observer watcher k before between calls event u) :
    ∃ elite, calls.Picks p.settings.numElite elite ∧ event.minScore = elite.minScore ∧
      event.eliteScore = elite.eliteScore := by
  obtain ⟨s, -, last, -, -, settings, course, rfl⟩ := h.course
  exact settings ▸ course.picks

end Stopping

namespace Elite

theorem agree_of_exact {T : Type} [Score.Exact T] (scores : List T) :
    ∀ x ∈ scores, ∀ y ∈ scores, Score.sortLe x y = true → x ≤ y :=
  fun x _ y _ => (Score.Exact.sortLe_iff x y).1

variable {scores : List EReal} {numElite : Nat} {elite : Elite EReal} {tolerance : EReal}

theorem isLeast_minScore (selected : select? scores numElite = some elite) :
    IsLeast {score | score ∈ scores} elite.minScore :=
  ⟨mem_of_ofRank? (ranks_of_select? selected).1, minScore_le_of_select? (agree_of_exact scores) selected⟩

theorem spread_le_iff (selected : select? scores numElite = some elite) :
    elite.eliteScore - elite.minScore ≤ tolerance ↔
      ∀ j ∈ elite.indices, ∀ score, scores[j]? = some score → score - elite.minScore ≤ tolerance := by
  rw [indices_of_select? selected]
  constructor
  · intro close j admitted score entry
    obtain ⟨score', entry', le⟩ := mem_admitted_iff.1 admitted
    obtain rfl : score = score' := Option.some.inj (entry.symm.trans entry')
    exact le_trans (EReal.sub_le_sub le le_rfl) close
  · intro close
    obtain ⟨j, inside, entry⟩ := List.getElem_of_mem (eliteScore_mem_of_select? selected)
    have entry : scores[j]? = some elite.eliteScore := List.getElem?_eq_some_iff.2 ⟨inside, entry⟩
    exact close j (mem_admitted_iff.2 ⟨_, entry, le_rfl⟩) _ entry

theorem spread_nonneg (finite : ∀ score ∈ scores, score ≠ ⊥ ∧ score ≠ ⊤)
    (selected : select? scores numElite = some elite) : 0 ≤ elite.eliteScore - elite.minScore := by
  have bound := eliteScore_mem_of_select? selected
  obtain ⟨notBot, notTop⟩ := finite _ bound
  exact (EReal.sub_nonneg (.inl notTop) (.inl notBot)).2 ((isLeast_minScore selected).2 bound)

end Elite

section Exact
variable {p : Problem P α EReal G σ} {e : EliteSpread EReal} {observer : Observer P EReal ω} {watcher between : ω}
  {k i : Nat} {before calls : Journal P α EReal} {event : Event P EReal} {u : Session P α EReal G σ}

/-- The run would complete this iteration unobserved, and it is not exempted and the scores of all its elite samples are
within the tolerance of the lowest score of its batch. -/
def Problem.GathersAt (p : Problem P α EReal G σ) (e : EliteSpread EReal) (i : Nat) : Prop :=
  e.minIters ≤ i ∧ ∃ calls event, p.Reaches i calls event ∧
    ∃ elite low, calls.Picks p.settings.numElite elite ∧ IsLeast {score | score ∈ calls.scored.map Prod.snd} low ∧
      ∀ j ∈ elite.indices, ∀ score, (calls.scored.map Prod.snd)[j]? = some score → score - low ≤ e.tolerance

def Problem.FiniteUnder (p : Problem P α EReal G σ) (observer : Observer P EReal ω) (watcher : ω) : Prop :=
  ∀ {k before between calls event u}, p.Completes observer watcher k before between calls event u →
    ∀ score ∈ calls.scored.map Prod.snd, score ≠ ⊥ ∧ score ≠ ⊤

namespace Problem

theorem convergesAt_iff_gathersAt : p.ConvergesAt e i ↔ p.GathersAt e i := by
  refine and_congr_right fun _ => exists_congr fun calls => exists_congr fun event => and_congr_right fun reached => ?_
  obtain ⟨k, before, u, -, completes⟩ := reached
  obtain ⟨elite, picks, low, bound⟩ := completes.picks
  -- The bound is the score of an elite sample itself, the one farthest from the lowest.
  rw [low, bound, Elite.spread_le_iff picks.selected]
  constructor
  · intro close
    exact ⟨elite, elite.minScore, picks, Elite.isLeast_minScore picks.selected, close⟩
  · rintro ⟨elite', low', picks', least, close⟩
    obtain rfl : elite' = elite := Option.some.inj (picks'.selected.symm.trans picks.selected)
    obtain rfl := least.unique (Elite.isLeast_minScore picks.selected)
    exact close

theorem Completes.proceeds_of_neg {nobody : Unit} (finite : p.FiniteUnder e.toObserver ()) (negative : e.tolerance < 0)
    (h : p.Completes e.toObserver () k before nobody calls event u) : (e.toObserver event nobody).1 = .proceed := by
  cases verdict : (e.toObserver event nobody).1 with
  | proceed => rfl
  | stop =>
      obtain ⟨-, close⟩ := EliteSpread.stops_iff.1 verdict
      obtain ⟨elite, picks, low, bound⟩ := h.picks
      rw [low, bound] at close
      exact absurd (lt_of_le_of_lt close negative) (not_lt_of_ge (Elite.spread_nonneg (finite h) picks.selected))

end Problem

theorem Problem.finiteUnder_of_scorer {scorer : Scorer α EReal σ} (installed : p.strategies.scorer = some scorer)
    (finite : ∀ {sample memory score next}, scorer sample memory = (.ok score, next) → score ≠ ⊥ ∧ score ≠ ⊤) :
    p.FiniteUnder observer watcher := by
  intro k before between calls event u completes
  obtain ⟨s, -, last, -, -, -, course, rfl⟩ := completes.course
  obtain ⟨scorer', memory, next, installed', scores⟩ := course.answers
  obtain rfl : scorer' = scorer := Option.some.inj (installed'.symm.trans installed)
  exact scores.forall_mem finite

/-- A run under an observer of the elite spread is stopped after the first iteration of the unobserved run whose event
has a spread within the tolerance, not counting those that are exempted, and in exact arithmetic these are the
iterations whose elite is gathered at the best of the batch. If scores are finite and the tolerance is negative, the run
is never stopped and is the unobserved one. -/
theorem elite_spread_stops_first :
    (∀ {S : Type} [Score S] [Sub S] (p : Problem P α S G σ) (e : EliteSpread S) (i : Nat),
      p.StoppedAfter e.toObserver () i ↔ IsLeast {i | p.ConvergesAt e i} i) ∧
    ∀ (p : Problem P α EReal G σ) (e : EliteSpread EReal),
      (∀ i, p.ConvergesAt e i ↔ p.GathersAt e i) ∧
      (p.FiniteUnder e.toObserver () → e.tolerance < 0 →
        (∀ i, ¬p.StoppedAfter e.toObserver () i) ∧
          ∀ limit, (p.solveUnder e.toObserver () limit).map Outcome.unwatched =
            (p.solve limit).map Outcome.unwatched) := by
  refine ⟨fun _ _ _ => Problem.stoppedAfter_iff_isLeast, fun p e => ⟨fun _ => Problem.convergesAt_iff_gathersAt, ?_⟩⟩
  intro finite negative
  refine ⟨fun i stopped => ?_, Problem.solveUnder_unwatched fun h => h.proceeds_of_neg finite negative⟩
  obtain ⟨k, before, nobody, calls, event, u, -, completes, stops⟩ := Problem.stoppedAfter_iff.1 stopped
  cases stops.symm.trans (completes.proceeds_of_neg finite negative)

end Exact

section Settling
variable {S : Type} [Score S] {low high : S} {s : Session Nat Nat S Unit Unit} {k : Nat}

/-- Of three samples two are elite. The best one scores better than the others in the first iteration only. -/
def settling (low high : S) : Problem Nat Nat S Unit Unit where
  strategies :=
    { generator := some fun shown rng memory => (.ok (.vector [shown.numIters, 1, 1]), rng, memory)
      scorer := some fun x memory => (.ok (if x[([] : List Nat)]? = some 0 then low else high), memory)
      estimator := some fun _ shown memory => (.ok (shown.params + 1), memory) }
  session :=
    { state := { State.initial 0 with settings := { numSamples := 3, numElite := 2, maxIters := some 5 } }
      rng := ()
      memory := ()
      bestSample := none }

structure Settles (low high : S) : Prop where
  number : Score.isNaN low = false ∧ Score.isNaN high = false
  above : Score.sortLe low high = true
  level : Score.sortLe high high = true

namespace Settles

theorem course (settles : Settles low high) (settings : s.state.settings = (settling low high).settings) :
    ∃ event t journal, Iteration.Course (settling low high).strategies s (.ok event) t journal ∧
      event.minScore = (if s.state.numIters = 0 then low else high) ∧ event.eliteScore = high := by
  have drawn : Iteration.Draws (settling low high).strategies (s.withScores none none)
      (.vector [s.state.numIters, 1, 1]) (s.withScores none none) :=
    .intro rfl rfl (congrArg Settings.numSamples settings).symm
  obtain ⟨first, least, number, sorts⟩ : ∃ first, first = (if s.state.numIters = 0 then low else high) ∧
      Score.isNaN first = false ∧ [first, high, high].Pairwise fun x y => Score.sortLe x y = true := by
    refine ⟨_, rfl, ?_, ?_⟩ <;> split <;> simp [settles.number, settles.above, settles.level]
  have all : Scores (fun x memory => (.ok (if x[([] : List Nat)]? = some 0 then low else high), memory)) s.memory
      (Tensor.vector [s.state.numIters, 1, 1]).rows [first, high, high] s.memory := by
    have answer : (if some s.state.numIters = some 0 then low else high) = first := by simp [least]
    exact .cons (congrArg (fun score => (Except.ok score, s.memory)) answer) number
      (.cons rfl settles.number.2 (.cons rfl settles.number.2 .nil))
  have selected := Elite.select?_of_pairwise sorts (k := 1) rfl rfl
  rw [show 1 + 1 = s.state.settings.numElite from (congrArg Settings.numElite settings).symm] at selected
  obtain ⟨chosen, picked, -⟩ := Elite.selectRows?_admitted high (all.length_eq.trans (Tensor.length_rows _))
  exact ⟨_, _, _, .completed (.intro drawn rfl all selected picked) (.intro rfl rfl) (.keep rfl), least, rfl⟩

theorem proceeds (settles : Settles low high) (settings : s.state.settings = (settling low high).settings)
    (early : s.state.numIters + k < 5) :
    ∃ t journal, Proceeds (settling low high).strategies .silent k s () t () journal ∧
      t.state.settings = (settling low high).settings ∧ t.state.numIters = s.state.numIters + k := by
  induction k generalizing s with
  | zero => exact ⟨s, [], .refl, settings, rfl⟩
  | succ k ih =>
      obtain ⟨event, t, journal, course, -⟩ := settles.course settings
      have kept : t.state.settings = (settling low high).settings := course.settings.trans settings
      have counted := course.reports.1
      have more : decide (5 ≤ t.state.numIters) = false := by
        rw [counted, decide_eq_false_iff_not]
        omega
      have limit : t.state.settings.maxIters = some 5 := congrArg Settings.maxIters kept
      have decides : Decides (settling low high).strategies t _ t [] := .limit rfl limit
      rw [more] at decides
      have goesOn : Step (settling low high).strategies .silent s () _ := .goesOn course rfl decides
      have first := (step_eq_iff (settings ▸ rfl)).2 goesOn
      obtain ⟨u, later, proceeds, settings', counted'⟩ := ih kept (by omega)
      exact ⟨u, _, .next first proceeds, settings', by omega⟩

theorem completes (settles : Settles low high) (early : k < 5) :
    ∃ before calls event u, (settling low high).Completes .silent () k before () calls event u ∧
      event.minScore = (if k = 0 then low else high) ∧ event.eliteScore = high := by
  obtain ⟨t, journal, proceeds, settings, counted⟩ :=
    settles.proceeds (s := (settling low high).fresh) rfl ((Nat.zero_add k).trans_lt early)
  obtain ⟨event, u, last, course, least, elite⟩ := settles.course settings
  rw [counted.trans (Nat.zero_add k)] at least
  exact ⟨_, _, event, u, .intro rfl proceeds (Iteration.iterate_of_course course), least, elite⟩

theorem convergesAt_iff [Sub S] {e : EliteSpread S} (settles : Settles low high) (early : k < 5) :
    (settling low high).ConvergesAt e (k + 1) ↔
      e.minIters ≤ k + 1 ∧ high - (if k = 0 then low else high) ≤ e.tolerance := by
  obtain ⟨before, calls, event, u, completes, least, elite⟩ := settles.completes early
  rw [← completes.stops_iff, EliteSpread.stops_iff, least, elite, completes.describes.2.iter,
    completes.describes.1]

end Settles
end Settling

theorem settles_zero_one : Settles (0 : EReal) 1 where
  number := ⟨rfl, rfl⟩
  above := by simp [Score.Exact.sortLe_iff]
  level := by simp [Score.Exact.sortLe_iff]

theorem settling_stops_first :
    let p : Problem Nat Nat EReal Unit Unit := settling 0 1
    let e : EliteSpread EReal := { tolerance := 0 }
    let f : EliteSpread EReal := { tolerance := -1 }
    p.StoppedAfter e.toObserver () 2 ∧ p.GathersAt e 2 ∧ ¬p.ConvergesAt e 1 ∧
      p.FiniteUnder f.toObserver () ∧ f.tolerance < 0 ∧ (∀ i, ¬p.StoppedAfter f.toObserver () i) ∧
      (p.solveUnder f.toObserver () 5).map Outcome.unwatched = (p.solve 5).map Outcome.unwatched := by
  intro p e f
  obtain ⟨first, gathers⟩ := @elite_spread_stops_first Nat Nat Unit Unit
  have flat : (1 : EReal) - 1 ≤ 0 := le_of_eq (EReal.sub_self (EReal.coe_ne_top 1) (EReal.coe_ne_bot 1))
  have second : p.ConvergesAt e 2 := (settles_zero_one.convergesAt_iff (k := 1) (by decide)).2 ⟨by decide, flat⟩
  have apart : ¬p.ConvergesAt e 1 := fun converges => by
    have close := ((settles_zero_one.convergesAt_iff (k := 0) (by decide)).1 converges).2
    simp [e] at close
    exact not_le_of_gt zero_lt_one close
  have least : IsLeast {i | p.ConvergesAt e i} 2 := by
    refine ⟨second, fun i converges => ?_⟩
    match i with
    | 0 => exact absurd converges.1 (by decide)
    | 1 => exact absurd converges apart
    | i + 2 => exact Nat.le_add_left 2 i
  have finite : p.FiniteUnder f.toObserver () := Problem.finiteUnder_of_scorer rfl fun returned => by
    obtain rfl := Except.ok.inj (Prod.mk.inj returned).1
    split
    · exact ⟨EReal.coe_ne_bot 0, EReal.coe_ne_top 0⟩
    · exact ⟨EReal.coe_ne_bot 1, EReal.coe_ne_top 1⟩
  have negative : f.tolerance < 0 := EReal.neg_lt_zero.2 zero_lt_one
  obtain ⟨never, same⟩ := (gathers p f).2 finite negative
  exact ⟨(first p e 2).2 least, ((gathers p e).1 2).1 second, apart, finite, negative, never, same 5⟩

end CrossEntropy
