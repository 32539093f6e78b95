import CrossEntropy.Proofs.BestEver
import CrossEntropy.Proofs.Indistinguishable
import CrossEntropy.Proofs.Observation
import CrossEntropy.Proofs.SortedScores

namespace CrossEntropy
variable {P α S G σ ω β γ ε : Type}

section Forms
variable [Score S]

def State.untracked (s : State P S) : State P S :=
  { s with settings := { s.settings with trackBest := false }, bestScore := Score.worst }

def Session.untracked (s : Session P α S G σ) : Session P α S G σ :=
  { s with state := s.state.untracked, bestSample := none }

theorem Session.parts_of_untracked {s t : Session P α S G σ} (same : s.untracked = t.untracked) :
    s.state.untracked = t.state.untracked ∧ s.rng = t.rng ∧ s.memory = t.memory := by
  obtain ⟨state, rng, memory, -⟩ := Session.mk.inj same
  exact ⟨state, rng, memory⟩

def Event.untracked (event : Event P S) : Event P S := { event with bestScore := Score.worst }

def Entry.untracked : Entry P α S → Entry P α S
  | .generate shown => .generate shown.untracked
  | .score index sample result => .score index sample result
  | .estimate elite shown => .estimate elite shown.untracked
  | .update estimated shown => .update estimated shown.untracked
  | .observe event verdict => .observe event.untracked verdict
  | .decideStop shown => .decideStop shown.untracked
  | .log entry => .log entry

def Journal.untracked (journal : Journal P α S) : Journal P α S := journal.calls.map Entry.untracked

theorem Journal.untracked_append (first rest : Journal P α S) :
    untracked (first ++ rest) = untracked first ++ untracked rest := by
  rw [untracked, calls_append, List.map_append]
  rfl

theorem Journal.untracked_calls (journal : Journal P α S) : journal.calls.untracked = journal.untracked := by
  simp only [untracked, calls, List.filter_filter, Bool.and_self]

def Stage.untracked (view : β → γ) (made : Except SolveError β × Session P α S G σ × Journal P α S) :
    Except SolveError γ × Session P α S G σ × Journal P α S :=
  (made.1.map view, made.2.1.untracked, made.2.2.untracked)

/-- Strategies that look neither at the best-ever score nor at the setting that asks for it. -/
structure Strategies.IgnoresBest (strategies : Strategies P α S G σ) : Prop
    extends strategies.SeesOnly State.untracked where
  stopRule : ∀ {rule}, strategies.stopRule = some rule → ∀ {s t}, s.untracked = t.untracked → rule s = rule t

end Forms

namespace Stage
variable [Score S] {m m' : Stage P α S G σ β} {f f' : β → Stage P α S G σ γ} {s t : Session P α S G σ}
  {view : γ → ε}

theorem untracked_eq_iff {a b : Except SolveError β × Session P α S G σ × Journal P α S} {view : β → γ} :
    untracked view a = untracked view b ↔
      a.1.map view = b.1.map view ∧ a.2.1.untracked = b.2.1.untracked ∧ a.2.2.untracked = b.2.2.untracked := by
  simp only [untracked, Prod.mk.injEq]

theorem untracked_bind (first : untracked id (m s) = untracked id (m' t))
    (rest : ∀ {x u v}, u.untracked = v.untracked → untracked view (f x u) = untracked view (f' x v)) :
    untracked view ((m >>= f) s) = untracked view ((m' >>= f') t) := by
  rcases left : m s with ⟨result, u, before⟩
  rcases right : m' t with ⟨result', v, before'⟩
  rw [left, right] at first
  obtain ⟨results, sessions, calls⟩ := untracked_eq_iff.1 first
  cases result with
  | error e =>
      cases result' with
      | ok => cases results
      | error e' =>
          obtain rfl := Except.error.inj results
          rw [bind_of_error left, bind_of_error right]
          exact untracked_eq_iff.2 ⟨rfl, sessions, calls⟩
  | ok x =>
      cases result' with
      | error => cases results
      | ok y =>
          obtain rfl : x = y := Except.ok.inj results
          obtain ⟨results, sessions, calls'⟩ := untracked_eq_iff.1 (rest (x := x) sessions)
          rw [bind_of_ok left rfl, bind_of_ok right rfl]
          refine untracked_eq_iff.2 ⟨results, sessions, ?_⟩
          exact (Journal.untracked_append ..).trans <|
            (congrArg₂ (· ++ ·) calls calls').trans (Journal.untracked_append ..).symm

theorem untracked_map {g : β → γ} (first : untracked id (m s) = untracked id (m' t)) :
    untracked id ((g <$> m) s) = untracked id ((g <$> m') t) := by
  rcases left : m s with ⟨result, u, before⟩
  rcases right : m' t with ⟨result', v, before'⟩
  rw [left, right] at first
  obtain ⟨results, sessions, calls⟩ := untracked_eq_iff.1 first
  cases result with
  | error e =>
      cases result' with
      | ok => cases results
      | error e' =>
          obtain rfl := Except.error.inj results
          rw [map_of_error left, map_of_error right]
          exact untracked_eq_iff.2 ⟨rfl, sessions, calls⟩
  | ok x =>
      cases result' with
      | error => cases results
      | ok y =>
          obtain rfl : x = y := Except.ok.inj results
          rw [map_of_ok left, map_of_ok right]
          exact untracked_eq_iff.2 ⟨rfl, sessions, calls⟩

theorem untracked_write_bind {entry entry' : Entry P α S} {f f' : Unit → Stage P α S G σ γ}
    (entries : Journal.untracked [entry] = Journal.untracked [entry'])
    (rest : untracked view (f () s) = untracked view (f' () t)) :
    untracked view ((write entry >>= f) s) = untracked view ((write entry' >>= f') t) := by
  obtain ⟨results, sessions, calls⟩ := untracked_eq_iff.1 rest
  rw [write_bind_of rfl, write_bind_of rfl]
  refine untracked_eq_iff.2 ⟨results, sessions, ?_⟩
  exact (Journal.untracked_append [entry] _).trans <|
    (congrArg₂ (· ++ ·) entries calls).trans (Journal.untracked_append [entry'] _).symm

theorem untracked_ofExcept (wrap : Failure → SolveError) (result : Except Failure β)
    (same : s.untracked = t.untracked) :
    untracked id (ofExcept wrap result s) = untracked id (ofExcept wrap result t) := by
  cases result <;> exact untracked_eq_iff.2 ⟨rfl, same, rfl⟩

end Stage

section Iterations
variable [Score S] {strategies : Strategies P α S G σ} {s t : Session P α S G σ}

open Iteration Stage

theorem draw_untracked (ignores : strategies.IgnoresBest) (same : s.untracked = t.untracked) :
    untracked id (draw strategies s) = untracked id (draw strategies t) := by
  cases installed : strategies.generator with
  | none =>
      simp only [draw, installed]
      exact untracked_eq_iff.2 ⟨rfl, same, rfl⟩
  | some generator =>
      obtain ⟨state, rng, memory⟩ := Session.parts_of_untracked same
      have sized : s.state.settings.numSamples = t.state.settings.numSamples := congrArg (·.settings.numSamples) state
      simp only [draw, installed, current_bind_apply, ignores.generator installed state, rng, memory, sized]
      refine untracked_write_bind (congrArg (fun shown => [Entry.generate shown]) state) ?_
      simp only [change_bind_apply]
      rcases generator t.state t.rng t.memory with ⟨result, rng, memory⟩
      refine untracked_bind (untracked_ofExcept _ result ?_) fun {batch u v} sessions => ?_
      · exact congrArg (fun u : Session P α S G σ => { u with rng, memory }) same
      · split <;> exact untracked_eq_iff.2 ⟨rfl, sessions, rfl⟩

theorem remember_untracked (index : Nat) (sample : Tensor α) (score : S) :
    untracked id (remember index sample score s) = (.ok (), s.untracked, []) := by
  rw [remember_apply]
  split <;> rfl

theorem scoreSample_untracked (scorer : Scorer α S σ) (index : Nat) (sample : Tensor α)
    (same : s.untracked = t.untracked) :
    untracked id (scoreSample scorer index sample s) = untracked id (scoreSample scorer index sample t) := by
  obtain ⟨-, -, memory⟩ := Session.parts_of_untracked same
  simp only [scoreSample, current_bind_apply, memory]
  rcases scorer sample t.memory with ⟨result, next⟩
  refine untracked_write_bind rfl ?_
  simp only [change_bind_apply]
  have sessions : (s.withMemory next).untracked = (t.withMemory next).untracked :=
    congrArg (Session.withMemory · next) same
  refine untracked_bind (untracked_ofExcept _ result sessions) fun {score u v} sessions => ?_
  split
  · exact untracked_eq_iff.2 ⟨rfl, sessions, rfl⟩
  · refine untracked_bind ?_ fun sessions => untracked_eq_iff.2 ⟨rfl, sessions, rfl⟩
    rw [remember_untracked, remember_untracked, sessions]

theorem scoreFrom_untracked (scorer : Scorer α S σ) (batch : Tensor α) {left index : Nat}
    (h : left + index = batch.extent 0) (same : s.untracked = t.untracked) :
    untracked id (scoreFrom scorer batch left index h s) = untracked id (scoreFrom scorer batch left index h t) := by
  induction left generalizing index s t with
  | zero => exact untracked_eq_iff.2 ⟨rfl, same, rfl⟩
  | succ left ih =>
      refine untracked_bind (scoreSample_untracked scorer index _ same) fun sessions => ?_
      exact untracked_map (ih _ sessions)

theorem scoreBatch_untracked (strategies : Strategies P α S G σ) (batch : Tensor α) (same : s.untracked = t.untracked) :
    untracked id (scoreBatch strategies batch s) = untracked id (scoreBatch strategies batch t) := by
  cases installed : strategies.scorer with
  | none =>
      simp only [scoreBatch, installed]
      exact untracked_eq_iff.2 ⟨rfl, same, rfl⟩
  | some scorer =>
      simp only [scoreBatch, installed]
      exact scoreFrom_untracked scorer batch _ same

theorem select_untracked (scores : List S) (same : s.untracked = t.untracked) :
    untracked id (select scores s) = untracked id (select scores t) := by
  obtain ⟨state, -⟩ := Session.parts_of_untracked same
  have asked : s.state.settings.numElite = t.state.settings.numElite := congrArg (·.settings.numElite) state
  simp only [select, current_bind_apply, asked]
  cases Elite.select? scores t.state.settings.numElite with
  | none => exact untracked_eq_iff.2 ⟨rfl, same, rfl⟩
  | some elite =>
      exact untracked_eq_iff.2
        ⟨rfl, congrArg (Session.withScores · (some elite.minScore) (some elite.eliteScore)) same, rfl⟩

theorem estimate_untracked (ignores : strategies.IgnoresBest) (chosen : Tensor α) (same : s.untracked = t.untracked) :
    untracked id (estimate strategies chosen s) = untracked id (estimate strategies chosen t) := by
  cases installed : strategies.estimator with
  | none =>
      simp only [estimate, installed]
      exact untracked_eq_iff.2 ⟨rfl, same, rfl⟩
  | some estimator =>
      obtain ⟨state, -, memory⟩ := Session.parts_of_untracked same
      have answers : estimator chosen s.state = estimator chosen t.state := ignores.estimator installed state
      simp only [estimate, installed, current_bind_apply, answers, memory]
      refine untracked_write_bind (congrArg (fun shown => [Entry.estimate chosen shown]) state) ?_
      exact untracked_ofExcept _ _ (congrArg (Session.withMemory · (estimator chosen t.state t.memory).2) same)

theorem update_untracked (ignores : strategies.IgnoresBest) (estimated : P) (same : s.untracked = t.untracked) :
    untracked id (update strategies estimated s) = untracked id (update strategies estimated t) := by
  cases installed : strategies.updater with
  | none =>
      simp only [update, installed]
      exact untracked_eq_iff.2 ⟨rfl, same, rfl⟩
  | some updater =>
      obtain ⟨state, -, memory⟩ := Session.parts_of_untracked same
      have answers : updater estimated s.state = updater estimated t.state := ignores.updater installed state
      simp only [update, installed, current_bind_apply, answers, memory]
      refine untracked_write_bind (congrArg (fun shown => [Entry.update estimated shown]) state) ?_
      exact untracked_ofExcept _ _ (congrArg (Session.withMemory · (updater estimated t.state t.memory).2) same)

theorem iterate_untracked (ignores : strategies.IgnoresBest) (same : s.untracked = t.untracked) :
    untracked Event.untracked (iterate strategies s) = untracked Event.untracked (iterate strategies t) := by
  have cleared : (s.withScores none none).untracked = (t.withScores none none).untracked :=
    congrArg (Session.withScores · none none) same
  unfold iterate
  simp only [clearScores, change_bind_apply]
  refine untracked_bind (draw_untracked ignores cleared) fun {batch _ _} drawn => ?_
  refine untracked_bind (scoreBatch_untracked strategies batch drawn) fun {scores _ _} scored => ?_
  refine untracked_bind (select_untracked scores scored) fun {elite _ _} selected => ?_
  cases batch.selectRows? elite.indices with
  | none => exact untracked_eq_iff.2 ⟨rfl, selected, rfl⟩
  | some chosen =>
      refine untracked_bind (estimate_untracked ignores chosen selected) fun {estimated _ _} estimates => ?_
      refine untracked_bind (update_untracked ignores estimated estimates) fun {params u v} updates => ?_
      rw [adopt_apply, adopt_apply]
      have adopted : (u.adopting params).untracked = (v.adopting params).untracked :=
        congrArg (Session.adopting · params) updates
      have events : (event (u.adopting params).untracked elite).untracked =
          (event (v.adopting params).untracked elite).untracked := by rw [adopted]
      exact untracked_eq_iff.2 ⟨congrArg Except.ok events, adopted, rfl⟩

theorem finished_untracked (ignores : strategies.IgnoresBest) (same : s.untracked = t.untracked) :
    untracked id (finished strategies s) = untracked id (finished strategies t) := by
  obtain ⟨state, -, memory⟩ := Session.parts_of_untracked same
  cases installed : strategies.stopRule with
  | some rule =>
      simp only [finished, installed, current_bind_apply, ignores.stopRule installed state, memory]
      refine untracked_write_bind (congrArg (fun shown => [Entry.decideStop shown]) state) ?_
      exact untracked_eq_iff.2 ⟨rfl, congrArg (Session.withMemory · (rule t.state t.memory).2) same, rfl⟩
  | none =>
      have limits : s.state.settings.maxIters = t.state.settings.maxIters := congrArg (·.settings.maxIters) state
      have counts : s.state.numIters = t.state.numIters := congrArg (·.numIters) state
      simp only [finished, installed, current_bind_apply, limits, counts]
      cases t.state.settings.maxIters <;> exact untracked_eq_iff.2 ⟨rfl, same, rfl⟩

end Iterations

section Runs
variable [Score S] {strategies : Strategies P α S G σ} {observer : Observer P S ω} {s t u : Session P α S G σ}
  {watcher watcher' : ω} {event event' : Event P S}

def Outcome.untracked (out : Outcome P α S G σ ω ε) : ε × Session P α S G σ × Journal P α S :=
  (out.ending, out.session.untracked, out.journal.untracked)

namespace Observer

/-- From these two memories on, the observer stops at the same events, whatever best-ever score these show. -/
def Agrees (observer : Observer P S ω) (watcher watcher' : ω) : Prop :=
  ∀ events events' : List (Event P S), events.map Event.untracked = events'.map Event.untracked →
    (observer.pass events watcher).isSome = (observer.pass events' watcher').isSome

abbrev IgnoresBest (observer : Observer P S ω) (watcher : ω) : Prop := observer.Agrees watcher watcher

theorem silent_ignoresBest : (silent : Observer P S Unit).IgnoresBest () := by
  have passes (events : List (Event P S)) : (silent.pass events ()).isSome = true := by
    induction events with
    | nil => rfl
    | cons _ _ ih => exact ih
  intro events events' _
  rw [passes, passes]

theorem Agrees.verdict (agrees : observer.Agrees watcher watcher') (same : event.untracked = event'.untracked) :
    (observer event' watcher').1 = (observer event watcher).1 := by
  have one := agrees [event] [event'] (congrArg ([·]) same)
  rcases left : observer event watcher with ⟨_ | _, notes, next⟩ <;>
    rcases right : observer event' watcher' with ⟨_ | _, notes', next'⟩ <;> simp_all [pass]

theorem Agrees.next (agrees : observer.Agrees watcher watcher') (same : event.untracked = event'.untracked)
    {notes notes' : List (LogRecord S)} {next next' : ω} (answer : observer event watcher = (.proceed, notes, next))
    (answer' : observer event' watcher' = (.proceed, notes', next')) : observer.Agrees next next' := by
  intro events events' shown
  have more := agrees (event :: events) (event' :: events') (congrArg₂ List.cons same shown)
  rwa [pass, pass, answer, answer'] at more

end Observer

theorem reported_untracked {journal journal' : Journal P α S} (calls : journal.untracked = journal'.untracked)
    (same : event.untracked = event'.untracked) (verdict : Verdict) (notes notes' : List (LogRecord S)) :
    (reported journal event verdict notes).untracked = (reported journal' event' verdict notes').untracked := by
  rw [Journal.untracked, Journal.untracked, reported_calls, reported_calls, List.map_append, List.map_append]
  exact congrArg₂ (· ++ ·) calls (congrArg (fun event => [Entry.observe event verdict]) same)

theorem step_untracked (ignores : strategies.IgnoresBest) (agrees : observer.Agrees watcher watcher')
    (same : s.untracked = t.untracked) :
    (step strategies observer s watcher).untracked = (step strategies observer t watcher').untracked ∧
      ((step strategies observer s watcher).ending = none →
        observer.Agrees (step strategies observer s watcher).watcher
          (step strategies observer t watcher').watcher) := by
  have iterates := iterate_untracked ignores same
  rcases left : iterate strategies s with ⟨result, u, journal⟩
  rcases right : iterate strategies t with ⟨result', v, journal'⟩
  rw [left, right] at iterates
  obtain ⟨results, sessions, calls⟩ := Stage.untracked_eq_iff.1 iterates
  rcases result with e | event
  · rcases result' with e' | event'
    · obtain rfl := Except.error.inj results
      rw [step_of_error left, step_of_error right]
      exact ⟨congrArg₂ (fun s journal => (_, s, journal)) sessions calls, by simp⟩
    · cases results
  · rcases result' with e' | event'
    · cases results
    · have shown : event.untracked = event'.untracked := Except.ok.inj results
      have verdicts := agrees.verdict shown
      obtain ⟨verdict, notes, next, answer⟩ :
          ∃ verdict notes next, observer event watcher = (verdict, notes, next) := ⟨_, _, _, rfl⟩
      obtain ⟨verdict', notes', next', answer'⟩ :
          ∃ verdict notes next, observer event' watcher' = (verdict, notes, next) := ⟨_, _, _, rfl⟩
      rw [answer, answer'] at verdicts
      obtain rfl : verdict' = verdict := verdicts
      have told := reported_untracked calls shown verdict' notes notes'
      cases verdict' with
      | stop =>
          rw [step_of_stop left answer, step_of_stop right answer']
          refine ⟨Prod.ext rfl (Prod.ext sessions ?_), by simp⟩
          simp only [Outcome.untracked, Journal.untracked_append, told]
          rfl
      | proceed =>
          have later := agrees.next shown answer answer'
          have decides := finished_untracked ignores sessions
          rcases decided : finished strategies u with ⟨stop, u', last⟩
          rcases decided' : finished strategies v with ⟨stop', v', last'⟩
          rw [decided, decided'] at decides
          obtain ⟨stops, sessions, lasts⟩ := Stage.untracked_eq_iff.1 decides
          have journals := congrArg₂ (· ++ ·) told lasts
          simp only [← Journal.untracked_append, reported] at journals
          rcases stop with e | _ | _ <;> rcases stop' with e' | _ | _ <;> cases stops <;>
            simp only [step, left, right, answer, answer', decided, decided']
          · exact ⟨Prod.ext rfl (Prod.ext sessions journals), by simp⟩
          · exact ⟨Prod.ext rfl (Prod.ext sessions journals), fun _ => later⟩
          · refine ⟨Prod.ext rfl (Prod.ext sessions ?_), by simp⟩
            simp only [Outcome.untracked, Journal.untracked_append _ [_], journals]
            rfl

theorem validate_of_untracked (same : s.untracked = t.untracked) :
    t.state.settings.validate = s.state.settings.validate := by
  obtain ⟨state, -⟩ := Session.parts_of_untracked same
  have numSamples : s.state.settings.numSamples = t.state.settings.numSamples := congrArg (·.settings.numSamples) state
  have numElite : s.state.settings.numElite = t.state.settings.numElite := congrArg (·.settings.numElite) state
  simp only [Settings.validate, numSamples, numElite]

theorem untracked_behind (journal : Journal P α S) (result : Option (Outcome P α S G σ ω ε)) :
    (result.map fun rest => { rest with journal := journal ++ rest.journal }).map Outcome.untracked =
      (result.map Outcome.untracked).map fun rest => (rest.1, rest.2.1, journal.untracked ++ rest.2.2) := by
  cases result with
  | none => rfl
  | some out =>
      exact congrArg (fun calls => some (out.ending, out.session.untracked, calls)) (Journal.untracked_append _ _)

theorem runWithin_untracked (ignores : strategies.IgnoresBest) (agrees : observer.Agrees watcher watcher')
    (same : s.untracked = t.untracked) (limit : Nat) :
    (runWithin strategies observer limit s watcher).map Outcome.untracked =
      (runWithin strategies observer limit t watcher').map Outcome.untracked := by
  induction limit generalizing s t watcher watcher' with
  | zero => rfl
  | succ limit ih =>
      obtain ⟨first, later⟩ := step_untracked ignores agrees same
      rw [runWithin, runWithin]
      rcases left : step strategies observer s watcher with ⟨ending, u, next, journal⟩
      rcases right : step strategies observer t watcher' with ⟨ending', v, next', journal'⟩
      rw [left, right] at first later
      obtain ⟨rfl, rest⟩ := Prod.mk.inj first
      obtain ⟨sessions, journals⟩ := Prod.mk.inj rest
      cases ending with
      | some ending => exact congrArg some (Prod.ext rfl (Prod.ext sessions journals))
      | none =>
          have journals : journal.untracked = journal'.untracked := journals
          simp only [untracked_behind, ih (later rfl) sessions, journals]

theorem proceeds_untracked (ignores : strategies.IgnoresBest) {n : Nat} {journal : Journal P α S}
    (agrees : observer.Agrees watcher watcher') (same : s.untracked = t.untracked) {next : ω}
    (h : Proceeds strategies observer n s watcher u next journal) :
    ∃ v next' journal', Proceeds strategies observer n t watcher' v next' journal' ∧ u.untracked = v.untracked ∧
      journal.untracked = journal'.untracked := by
  induction h generalizing t watcher' with
  | refl => exact ⟨t, watcher', [], .refl, same, rfl⟩
  | @next n s _ _ watcher between _ _ _ made _ ih =>
      obtain ⟨first, later⟩ := step_untracked ignores agrees same
      rcases right : step strategies observer t watcher' with ⟨ending', v, between', journal'⟩
      rw [made, right] at first later
      obtain ⟨rfl, rest⟩ := Prod.mk.inj first
      obtain ⟨sessions, journals⟩ := Prod.mk.inj rest
      obtain ⟨w, next', journal'', proceeds, sessions, calls⟩ := ih (later rfl) sessions
      refine ⟨w, next', journal' ++ journal'', .next right proceeds, sessions, ?_⟩
      exact (Journal.untracked_append ..).trans <|
        (congrArg₂ (· ++ ·) journals calls).trans (Journal.untracked_append ..).symm

end Runs

theorem History.number {p : Problem P α Float G σ} {scored : List (Tensor α × Float)} (history : History p scored) :
    p.state.bestScore.isNaN = false := by
  induction history with
  | new => exact isNaN_infinity
  | @next p q _ more _ operation ih =>
      have start : p.session.best.score.isNaN = false := ih
      have least := Best.score_seeAll_le_start true start operation.number
      rw [← operation.seen] at least
      exact (number_of_le least).1

theorem Iteration.Course.best_le {strategies : Strategies P α Float G σ} {s t : Session P α Float G σ}
    {event : Event P Float} {journal : Journal P α Float} (course : Course strategies s (.ok event) t journal)
    (track : s.state.settings.trackBest = true) (number : s.state.bestScore.isNaN = false) :
    t.state.bestScore ≤ event.minScore := by
  cases course with
  | @completed batch scores elite _ _ _ _ _ _ _ _ selects estimates updates =>
      have best := congrArg Best.score (updates.best.trans (estimates.best.trans selects.best))
      rw [track] at best
      change _ ≤ elite.minScore
      cases selects with
      | intro _ _ all selected =>
          have member : elite.minScore ∈ scores := Elite.mem_of_ofRank? (Elite.ranks_of_select? selected).1
          rw [← List.map_snd_zip (Nat.le_of_eq all.length_eq)] at member
          obtain ⟨pair, inside, low⟩ := List.mem_map.1 member
          have numbers : ∀ pair ∈ batch.rows.zip scores, pair.2.isNaN = false :=
            fun pair member => all.number _ (List.of_mem_zip member).2
          have start : s.best.score.isNaN = false := number
          have least := (Best.score_seeAll_le start numbers).2 pair inside
          rwa [← best, low] at least

section Problems
variable {S : Type} [Score S] {p q : Problem P α S G σ}

theorem Problem.fresh_untracked (same : q.session.untracked = p.session.untracked) :
    q.fresh.untracked = p.fresh.untracked :=
  congrArg (fun s : Session P α S G σ => { s with state := { s.state with numIters := 0 } }) same

theorem Problem.Completes.untracked {ω ω' : Type} {observer : Observer P S ω} {observer' : Observer P S ω'}
    {watcher between : ω} {watcher' between' : ω'} {k : Nat} {before before' calls calls' : Journal P α S}
    {event event' : Event P S} {u u' : Session P α S G σ} (ignores : p.strategies.IgnoresBest)
    (strategies : q.strategies = p.strategies) (same : q.session.untracked = p.session.untracked)
    (completes : p.Completes observer watcher k before between calls event u)
    (completes' : q.Completes observer' watcher' k before' between' calls' event' u') :
    before'.untracked = before.untracked ∧ calls'.untracked = calls.untracked ∧
      event'.untracked = event.untracked ∧ u'.untracked = u.untracked := by
  -- Nobody watches: each observer has let the iterations before go by, so the runs are those without one.
  obtain ⟨⟨valid, proceeds, completed⟩, -⟩ := Problem.Completes.lockstep.1 completes
  obtain ⟨⟨-, proceeds', completed'⟩, -⟩ := Problem.Completes.lockstep.1 completes'
  rw [strategies] at proceeds' completed'
  obtain ⟨v, _, journal, again, sessions, earlier⟩ :=
    proceeds_untracked ignores Observer.silent_ignoresBest (fresh_untracked same).symm proceeds
  obtain ⟨rfl, -, rfl⟩ := proceeds'.unique again
  have iterates := iterate_untracked ignores sessions
  rw [completed, completed'] at iterates
  obtain ⟨events, left, last⟩ := Stage.untracked_eq_iff.1 iterates
  simp only [Journal.untracked_calls]
  exact ⟨earlier.symm, last.symm, (Except.ok.inj events).symm, left.symm⟩

theorem Problem.solveUnder_untracked {ω : Type} {observer : Observer P S ω} {watcher : ω}
    (ignores : p.strategies.IgnoresBest) (strategies : q.strategies = p.strategies)
    (same : q.session.untracked = p.session.untracked) (blind : observer.IgnoresBest watcher) (limit : Nat) :
    (q.solveUnder observer watcher limit).map Outcome.untracked =
      (p.solveUnder observer watcher limit).map Outcome.untracked := by
  have settled : p.settings.validate = q.settings.validate := validate_of_untracked same
  cases valid : p.settings.validate with
  | error invalid =>
      rw [solveUnder_of_invalid valid, solveUnder_of_invalid (settled.symm.trans valid)]
      exact congrArg (fun s => some (_, s, _)) same
  | ok =>
      rw [solveUnder_of_valid valid, solveUnder_of_valid (settled.symm.trans valid), strategies]
      exact (runWithin_untracked ignores blind (fresh_untracked same).symm limit).symm

end Problems

theorem Problem.Completes.best_le {p : Problem P α Float G σ} {scored : List (Tensor α × Float)} {ω : Type}
    {observer : Observer P Float ω} {watcher between : ω} {k : Nat} {before calls : Journal P α Float}
    {event : Event P Float} {u : Session P α Float G σ} (history : History p scored)
    (track : p.settings.trackBest = true) (completes : p.Completes observer watcher k before between calls event u) :
    u.state.minScore = some event.minScore ∧ event.bestScore = u.state.bestScore ∧
      u.state.bestScore ≤ event.minScore := by
  obtain ⟨s, earlier, last, valid, proceeds, settings, course, -⟩ := completes.course
  have start : p.fresh.best.score.isNaN = false := history.number
  have number := (number_of_le (Best.le_of_seen (proceeds.seen valid) start)).1
  have best := course.best_le ((congrArg Settings.trackBest settings).trans track) number
  exact ⟨course.describes.minScore, course.describes.bestScore, best⟩

/-- Two problems with the same strategies that differ in tracking only, such as one problem with the setting on and
off, go through the same iterations, and unless an observer stops them by the best-ever score, the same runs. -/
theorem tracking_is_passive :
    (∀ {S : Type} [Score S] {p q : Problem P α S G σ}, p.strategies.IgnoresBest → q.strategies = p.strategies →
      q.session.untracked = p.session.untracked →
      (∀ {ω ω' : Type} {observer : Observer P S ω} {observer' : Observer P S ω'} {watcher between : ω}
          {watcher' between' : ω'} {k : Nat} {before before' calls calls' : Journal P α S} {event event' : Event P S}
          {u u' : Session P α S G σ},
        p.Completes observer watcher k before between calls event u →
        q.Completes observer' watcher' k before' between' calls' event' u' →
        before'.untracked = before.untracked ∧ calls'.untracked = calls.untracked ∧
          event'.untracked = event.untracked ∧ u'.untracked = u.untracked) ∧
      ∀ {ω : Type} {observer : Observer P S ω} {watcher : ω}, observer.IgnoresBest watcher → ∀ limit,
        (q.solveUnder observer watcher limit).map Outcome.untracked =
          (p.solveUnder observer watcher limit).map Outcome.untracked) ∧
    ∀ {p : Problem P α Float G σ} {scored : List (Tensor α × Float)} {ω : Type} {observer : Observer P Float ω}
        {watcher between : ω} {k : Nat} {before calls : Journal P α Float} {event : Event P Float}
        {u : Session P α Float G σ},
      History p scored → p.settings.trackBest = true → p.Completes observer watcher k before between calls event u →
      u.state.minScore = some event.minScore ∧ event.bestScore = u.state.bestScore ∧
        u.state.bestScore ≤ event.minScore :=
  ⟨fun ignores strategies same =>
      ⟨Problem.Completes.untracked ignores strategies same, Problem.solveUnder_untracked ignores strategies same⟩,
    Problem.Completes.best_le⟩

def Problem.tracking [Score S] (p : Problem P α S G σ) (track : Bool) : Problem P α S G σ :=
  p.withSettings fun c => { c with trackBest := track }

theorem completes_endless (track : Bool) (score : Float)
    (makes : let made := iterate endless.strategies (endless.tracking track).fresh
      made.1.toOption.map (fun event => (event.minScore, made.2.1.state.bestScore)) = some (1.5, score)) :
    ∃ calls event u, (endless.tracking track).Completes .silent () 0 [] () calls event u ∧ event.minScore = 1.5 ∧
      u.state.bestScore = score := by
  rcases completed : iterate endless.strategies (endless.tracking track).fresh with ⟨result, u, last⟩
  rw [completed] at makes
  cases result with
  | error => cases makes
  | ok event =>
      obtain ⟨low, best⟩ := Prod.mk.inj (Option.some.inj makes)
      exact ⟨_, event, u, .intro rfl .refl completed, low, best⟩

theorem passive_of_endless :
    (∃ calls event u calls' event' u',
      (endless.tracking true).Completes .silent () 0 [] () calls event u ∧
      (endless.tracking false).Completes .silent () 0 [] () calls' event' u' ∧
      calls'.untracked = calls.untracked ∧ event'.untracked = event.untracked ∧ u'.untracked = u.untracked ∧
      u.state.bestScore = 1.5 ∧ u.state.bestScore ≤ event.minScore ∧ u'.state.bestScore = 1.0 / 0.0) ∧
    ∃ out out', (scoresZeros.withSettings fun _ => { numSamples := 3, numElite := 1, trackBest := true }).solve 1 =
        some out ∧
      (scoresZeros.withSettings fun _ => { numSamples := 3, numElite := 1 }).solve 1 = some out' ∧
      out'.untracked = out.untracked ∧ out.session.state.bestScore = 0.0 := by
  constructor
  · have ignores : endless.strategies.IgnoresBest := by
      refine ⟨⟨?_, ?_, nofun⟩, ?_⟩
      · rintro _ ⟨⟩ s t same
        rfl
      · rintro _ ⟨⟩ elite s t same
        have params : s.params = t.params := (State.mk.inj same).1
        simp only [params]
      · rintro _ ⟨⟩ s t same
        rfl
    obtain ⟨calls, event, u, completes, low, best⟩ := completes_endless true 1.5 (by decide +kernel)
    obtain ⟨calls', event', u', completes', low', best'⟩ := completes_endless false (1.0 / 0.0) (by decide +kernel)
    have history : History (endless.tracking true) [] :=
      (History.new endless.strategies 0 () 0).next
        (.settings fun _ => { numSamples := 1, numElite := 1, trackBest := true })
    obtain ⟨-, same, shown, left⟩ :=
      (tracking_is_passive.1 (p := endless.tracking true) (q := endless.tracking false) ignores rfl rfl).1
        completes completes'
    obtain ⟨-, -, below⟩ := tracking_is_passive.2 history rfl completes
    exact ⟨calls, event, u, calls', event', u', completes, completes', same, shown, left, best, below, best'⟩
  · have ignores : scoresZeros.strategies.IgnoresBest := by
      refine ⟨⟨?_, nofun, nofun⟩, nofun⟩
      rintro _ ⟨⟩ s t same
      rfl
    let p := scoresZeros.withSettings fun _ => { numSamples := 3, numElite := 1, trackBest := true }
    let q := scoresZeros.withSettings fun _ => { numSamples := 3, numElite := 1 }
    have leaves : (p.solve 1).map (·.session.state.bestScore) = some 0.0 := by decide +kernel
    obtain ⟨out, made, score⟩ := Option.map_eq_some_iff.1 leaves
    have same := (tracking_is_passive.1 (p := p) (q := q) ignores rfl rfl).2 Observer.silent_ignoresBest 1
    rw [show p.solveUnder .silent () 1 = some out from made] at same
    obtain ⟨out', made', seen⟩ := Option.map_eq_some_iff.1 same
    exact ⟨out, out', made, made', seen, score⟩

end CrossEntropy
