import CrossEntropy.Proofs.Run

namespace CrossEntropy
variable {P α S G σ ω : Type}

def Entry.shown? : Entry P α S → Option (State P S)
  | .generate shown | .estimate _ shown | .update _ shown | .decideStop shown => some shown
  | .score .. | .observe .. | .log _ => none

def Entry.ofStrategy : Entry P α S → Bool
  | .generate _ | .score .. | .estimate .. | .update .. | .decideStop _ => true
  | .observe .. | .log _ => false

variable [Score S] {strategies : Strategies P α S G σ} {observer : Observer P S ω} {s t u : Session P α S G σ}
  {watcher watcher' : ω} {n : Nat} {journal : Journal P α S} {entry : Entry P α S}

open Iteration

/-- A call of a strategy in an iteration: the session at the call, and the entry that the call makes. -/
inductive Iteration.Calls (strategies : Strategies P α S G σ) (s : Session P α S G σ) :
    Session P α S G σ → Entry P α S → Prop
  | generator {generator} (installed : strategies.generator = some generator) :
      Calls strategies s (s.withScores none none) (.generate (s.withScores none none).state)
  | scorer {batch t scorer index scores between result last}
      (drawn : Draws strategies (s.withScores none none) batch t) (installed : strategies.scorer = some scorer)
      (inside : index < batch.extent 0) (before : Scores scorer t.memory (batch.rows.take index) scores between)
      (returned : scorer (batch.row index inside) between = (result, last)) :
      Calls strategies s (scored t ((batch.rows.take index).zip scores) between)
        (.score index (batch.row index inside) result)
  | estimator {batch scores elite chosen t journal estimator}
      (selects : Selects strategies s batch scores elite chosen t journal)
      (installed : strategies.estimator = some estimator) : Calls strategies s t (.estimate chosen t.state)
  | updater {batch scores elite chosen t journal estimated u updater}
      (selects : Selects strategies s batch scores elite chosen t journal)
      (estimates : Estimates strategies t chosen estimated u) (installed : strategies.updater = some updater) :
      Calls strategies s u (.update estimated u.state)

theorem Scores.split {scorer : Scorer α S σ} {memory last : σ} {samples : List (Tensor α)} {scores : List S} {k : Nat}
    (h : Scores scorer memory samples scores last) (lt : k < samples.length) :
    ∃ between next score, Scores scorer memory (samples.take k) (scores.take k) between ∧
      scores[k]? = some score ∧ scorer samples[k] between = (.ok score, next) := by
  induction h generalizing k with
  | nil => cases lt
  | cons returned number _ ih =>
      cases k with
      | zero => exact ⟨_, _, _, .nil, rfl, returned⟩
      | succ k =>
          obtain ⟨between, next, score, before, entry, returned'⟩ := ih (Nat.lt_of_succ_lt_succ lt)
          exact ⟨between, next, score, .cons returned number before, entry, returned'⟩

section Iterations
variable {batch chosen : Tensor α} {scores : List S} {elite : Elite S}

theorem Iteration.Draws.exists_calls {scorer : Scorer α S σ} {last : σ} {k : Nat}
    (drawn : Draws strategies (s.withScores none none) batch t) (installed : strategies.scorer = some scorer)
    (all : Scores scorer t.memory (batch.rows.take k) scores last) :
    ∀ entry ∈ Journal.scoreCalls 0 ((batch.rows.take k).zip scores), ∃ u, Calls strategies s u entry := by
  intro entry member
  obtain ⟨⟨⟨sample, score⟩, i⟩, paired, rfl⟩ := List.mem_map.1 member
  simp only [List.mem_zipIdx_iff_getElem?, List.getElem?_zip_eq_some] at paired
  obtain ⟨lt, rfl⟩ := List.getElem?_eq_some_iff.1 paired.1
  obtain ⟨between, next, score', before, value, returned⟩ := all.split lt
  obtain rfl : score' = score := Option.some.inj (value.symm.trans paired.2)
  have bounds := lt
  rw [List.length_take, batch.length_rows, Nat.lt_min] at bounds
  rw [List.take_take, Nat.min_eq_left (Nat.le_of_lt bounds.1)] at before
  simp only [List.getElem_take, Tensor.rows, List.getElem_ofFn] at returned ⊢
  exact ⟨_, .scorer drawn installed bounds.2 before returned⟩

theorem Iteration.Draws.called (drawn : Draws strategies (s.withScores none none) batch t) :
    ∃ u, Calls strategies s u (.generate (s.withScores none none).state) := by
  cases drawn with
  | intro installed => exact ⟨_, .generator installed⟩

theorem Iteration.Selects.exists_calls (h : Selects strategies s batch scores elite chosen t journal) :
    ∀ entry ∈ journal.calls, ∃ u, Calls strategies s u entry := by
  cases h with
  | intro drawn installed all =>
      refine List.forall_mem_cons.2 ⟨drawn.called, ?_⟩
      change ∀ entry ∈ Journal.calls (Journal.scoring _ _ 0 _), _
      rw [Journal.calls_scoring]
      rw [← List.take_length (l := batch.rows)] at all ⊢
      exact drawn.exists_calls installed all

theorem Iteration.Selects.called {estimated : P} (selects : Selects strategies s batch scores elite chosen t journal)
    (estimates : Estimates strategies t chosen estimated u) : ∃ u, Calls strategies s u (.estimate chosen t.state) := by
  cases estimates with
  | intro installed => exact ⟨_, .estimator selects installed⟩

theorem Iteration.Course.exists_calls {result : Except SolveError (Event P S)}
    (h : Course strategies s result t journal) : ∀ entry ∈ journal.calls, ∃ u, Calls strategies s u entry := by
  cases h with
  | undrawn fails =>
      cases fails with
      | missing => exact nofun
      | failed installed | missized installed => exact List.forall_mem_singleton.2 ⟨_, .generator installed⟩
  | unscored drawn fails =>
      refine List.forall_mem_cons.2 ⟨drawn.called, ?_⟩
      cases fails with
      | missing => exact nofun
      | rejected installed inside before returned =>
          change ∀ entry ∈ Journal.calls (Journal.scoring _ _ 0 _ ++ [_]), _
          rw [Journal.calls_append, Journal.calls_scoring]
          exact List.forall_mem_append.2 ⟨drawn.exists_calls installed before,
            List.forall_mem_singleton.2 ⟨_, .scorer drawn installed inside before returned⟩⟩
  | unestimated selects fails =>
      rw [Journal.calls_append]
      refine List.forall_mem_append.2 ⟨selects.exists_calls, ?_⟩
      cases fails with
      | missing => exact nofun
      | failed installed => exact List.forall_mem_singleton.2 ⟨_, .estimator selects installed⟩
  | unupdated selects estimates fails =>
      rw [Journal.calls_append]
      refine List.forall_mem_append.2 ⟨selects.exists_calls, List.forall_mem_cons.2 ⟨selects.called estimates, ?_⟩⟩
      cases fails with
      | failed installed => exact List.forall_mem_singleton.2 ⟨_, .updater selects estimates installed⟩
  | completed selects estimates updates =>
      rw [Journal.calls_append]
      refine List.forall_mem_append.2 ⟨selects.exists_calls, List.forall_mem_cons.2 ⟨selects.called estimates, ?_⟩⟩
      cases updates with
      | keep => exact nofun
      | apply installed => exact List.forall_mem_singleton.2 ⟨_, .updater selects estimates installed⟩

end Iterations

inductive Problem.Calls (p : Problem P α S G σ) (observer : Observer P S ω) (watcher : ω) :
    Session P α S G σ → Entry P α S → Prop
  | iteration {n s watcher' earlier u entry} (valid : p.settings.validate = .ok ())
      (proceeds : Proceeds p.strategies observer n p.fresh watcher s watcher' earlier)
      (call : Iteration.Calls p.strategies s u entry) : Calls p observer watcher u entry
  | stopRule {n s watcher' earlier event u last notes watcher'' rule} (valid : p.settings.validate = .ok ())
      (proceeds : Proceeds p.strategies observer n p.fresh watcher s watcher' earlier)
      (completed : iterate p.strategies s = (.ok event, u, last))
      (answer : observer event watcher' = (.proceed, notes, watcher''))
      (installed : p.strategies.stopRule = some rule) : Calls p observer watcher u (.decideStop u.state)

/-- The journal of a run that is over, or of one that goes on, after some iterations. -/
inductive Problem.Writes (p : Problem P α S G σ) (observer : Observer P S ω) (watcher : ω) : Journal P α S → Prop
  | ended {limit : Nat} {out : Outcome P α S G σ ω (Except SolveError Ending)}
      (made : p.solveUnder observer watcher limit = some out) : Writes p observer watcher out.journal
  | going {n : Nat} {t : Session P α S G σ} {watcher' : ω} {journal : Journal P α S}
      (valid : p.settings.validate = .ok ())
      (proceeds : Proceeds p.strategies observer n p.fresh watcher t watcher' journal) :
      Writes p observer watcher journal

theorem Proceeds.exists_step (h : Proceeds strategies observer n s watcher t watcher' journal)
    (valid : s.state.settings.validate = .ok ()) (member : entry ∈ journal) :
    ∃ k u between earlier made, Proceeds strategies observer k s watcher u between earlier ∧
      Step strategies observer u between made ∧ entry ∈ made.journal := by
  induction h with
  | refl => cases member
  | next first _ ih =>
      have made := (step_eq_iff valid).1 first
      rcases List.mem_append.1 member with now | later
      · exact ⟨0, _, _, [], _, .refl, made, now⟩
      · obtain ⟨k, u, between, earlier, _, proceeds, stepped, member⟩ := ih (made.settings.symm ▸ valid) later
        exact ⟨k + 1, u, between, _, _, .next first proceeds, stepped, member⟩

theorem Problem.Writes.exists_step {p : Problem P α S G σ} (h : p.Writes observer watcher journal)
    (member : entry ∈ journal) :
    p.settings.validate = .ok () ∧ ∃ n s watcher' earlier made,
      Proceeds p.strategies observer n p.fresh watcher s watcher' earlier ∧
      Step p.strategies observer s watcher' made ∧ entry ∈ made.journal := by
  cases h with
  | going valid proceeds => exact ⟨valid, proceeds.exists_step valid member⟩
  | ended made =>
      cases valid : p.settings.validate with
      | error invalid =>
          rw [solveUnder_of_invalid valid] at made
          obtain rfl := Option.some.inj made
          cases member
      | ok =>
          obtain ⟨n, s, watcher', earlier, last, proceeds, -, final, whole⟩ := p.last_step valid made
          rw [whole] at member
          rcases List.mem_append.1 member with before | now
          · exact ⟨rfl, proceeds.exists_step valid before⟩
          · exact ⟨rfl, n, s, watcher', earlier, _, proceeds, final, now⟩

namespace Problem
variable {p : Problem P α S G σ}

theorem Calls.state_eq {shown : State P S} (h : p.Calls observer watcher u entry) (shows : entry.shown? = some shown) :
    u.state = shown := by
  cases h with
  | stopRule => exact Option.some.inj shows
  | iteration _ _ call =>
      cases call with
      | scorer => cases shows
      | generator | estimator | updater => exact Option.some.inj shows

theorem exists_calls_of_step {made : Outcome P α S G σ ω (Option (Except SolveError Ending))}
    (valid : p.settings.validate = .ok ())
    (proceeds : Proceeds p.strategies observer n p.fresh watcher s watcher' journal)
    (h : Step p.strategies observer s watcher' made) :
    ∀ entry ∈ made.journal.calls, entry.ofStrategy = true → ∃ u, p.Calls observer watcher u entry := by
  have iteration {result : Except SolveError (Event P S)} {u : Session P α S G σ} {first : Journal P α S}
      (course : Course p.strategies s result u first) :
      ∀ entry ∈ first.calls, entry.ofStrategy = true → ∃ u, p.Calls observer watcher u entry := by
    intro entry member _
    obtain ⟨u, call⟩ := course.exists_calls entry member
    exact ⟨u, .iteration valid proceeds call⟩
  have rule {event : Event P S} {u v : Session P α S G σ} {first last : Journal P α S} {notes : List (LogRecord S)}
      {watcher'' : ω} {stop : Bool} (course : Course p.strategies s (.ok event) u first)
      (answer : observer event watcher' = (.proceed, notes, watcher''))
      (decides : Decides p.strategies u stop v last) :
      ∀ entry ∈ last.calls, entry.ofStrategy = true → ∃ u, p.Calls observer watcher u entry := by
    cases decides with
    | limit => exact nofun
    | rule installed =>
        refine List.forall_mem_singleton.2 fun _ => ⟨u, ?_⟩
        exact .stopRule valid proceeds (iterate_of_course course) answer installed
  have answered (event : Event P S) (verdict : Verdict) :
      ∀ entry ∈ [Entry.observe event verdict], entry.ofStrategy = true → ∃ u, p.Calls observer watcher u entry :=
    List.forall_mem_singleton.2 nofun
  cases h with
  | fails course => exact iteration course
  | stopped course =>
      simp only [Journal.calls_append, reported_calls, List.forall_mem_append]
      exact ⟨⟨iteration course, answered _ _⟩, nofun⟩
  | undecided course =>
      simp only [reported_calls, List.forall_mem_append]
      exact ⟨iteration course, answered _ _⟩
  | ends course answer decides =>
      simp only [Journal.calls_append, reported_calls, List.forall_mem_append]
      exact ⟨⟨⟨iteration course, answered _ _⟩, rule course answer decides⟩, nofun⟩
  | goesOn course answer decides =>
      simp only [Journal.calls_append, reported_calls, List.forall_mem_append]
      exact ⟨⟨iteration course, answered _ _⟩, rule course answer decides⟩

theorem Writes.exists_calls (h : p.Writes observer watcher journal) (member : entry ∈ journal)
    (strategy : entry.ofStrategy = true) :
    ∃ u, p.Calls observer watcher u entry ∧ ∀ shown, entry.shown? = some shown → u.state = shown := by
  obtain ⟨valid, n, s, watcher', earlier, made, proceeds, stepped, member⟩ := h.exists_step member
  have called : entry ∈ made.journal.calls := by
    refine List.mem_filter.2 ⟨member, ?_⟩
    cases entry with
    | log => cases strategy
    | generate | score | estimate | update | observe | decideStop => rfl
  obtain ⟨u, calls⟩ := exists_calls_of_step valid proceeds stepped entry called strategy
  exact ⟨u, calls, fun _ => calls.state_eq⟩

end Problem
end CrossEntropy
