import Mathlib.Data.List.Forall2
import Mathlib.Data.Option.Basic
import CrossEntropy.Proofs.IterationLimit

/-!
Two problems side by side. Two stages go alike if both return, with answers in a relation, or both fail, with
errors in a relation, and the sessions they leave are in a relation again. Chains of stages that go alike link
by link go alike (`Alike.bind`), and so do runs whose iterations and stop decisions do (`runWithin_alike`).
-/

namespace CrossEntropy
variable {P α S G σ ω ε β β' γ γ' : Type}

inductive ExceptRel {ε ε' : Type} (errors : ε → ε' → Prop) (answers : β → γ → Prop) :
    Except ε β → Except ε' γ → Prop
  | ok {x : β} {y : γ} (answer : answers x y) : ExceptRel errors answers (.ok x) (.ok y)
  | error {e : ε} {e' : ε'} (same : errors e e') : ExceptRel errors answers (.error e) (.error e')

theorem ExceptRel.eq {ε : Type} {x y : Except ε β} (h : ExceptRel Eq Eq x y) : x = y := by
  cases h with
  | ok answer => exact congrArg Except.ok answer
  | error same => exact congrArg Except.error same

inductive Alike (rel : Session P α S G σ → Session P α S G σ → Prop) (errors : SolveError → SolveError → Prop)
    (answers : β → γ → Prop) :
    Except SolveError β × Session P α S G σ × Journal P α S →
    Except SolveError γ × Session P α S G σ × Journal P α S → Prop
  | ok {x : β} {y : γ} {s t : Session P α S G σ} {journal journal' : Journal P α S} (answer : answers x y)
      (sessions : rel s t) : Alike rel errors answers (.ok x, s, journal) (.ok y, t, journal')
  | error {e e' : SolveError} {s t : Session P α S G σ} {journal journal' : Journal P α S} (same : errors e e')
      (sessions : rel s t) : Alike rel errors answers (.error e, s, journal) (.error e', t, journal')

variable {rel : Session P α S G σ → Session P α S G σ → Prop} {errors : SolveError → SolveError → Prop}
  {answers : β → γ → Prop} {results : β' → γ' → Prop} {s t : Session P α S G σ}

namespace Alike

theorem bind {m : Stage P α S G σ β} {m' : Stage P α S G σ γ} {f : β → Stage P α S G σ β'}
    {f' : γ → Stage P α S G σ γ'} (first : Alike rel errors answers (m s) (m' t))
    (rest : ∀ {x y u v}, answers x y → rel u v → Alike rel errors results (f x u) (f' y v)) :
    Alike rel errors results ((m >>= f) s) ((m' >>= f') t) := by
  generalize left : m s = a at first
  generalize right : m' t = b at first
  cases first with
  | error same sessions =>
      rw [Stage.bind_of_error left, Stage.bind_of_error right]
      exact .error same sessions
  | @ok x y u v _ _ answer sessions =>
      have later := rest answer sessions
      generalize left' : f x u = a at later
      generalize right' : f' y v = b at later
      cases later with
      | error same sessions =>
          rw [Stage.bind_of_ok left left', Stage.bind_of_ok right right']
          exact .error same sessions
      | ok answer sessions =>
          rw [Stage.bind_of_ok left left', Stage.bind_of_ok right right']
          exact .ok answer sessions

theorem map {m : Stage P α S G σ β} {m' : Stage P α S G σ γ} {f : β → β'} {f' : γ → γ'}
    (first : Alike rel errors answers (m s) (m' t)) (rest : ∀ {x y}, answers x y → results (f x) (f' y)) :
    Alike rel errors results ((f <$> m) s) ((f' <$> m') t) := by
  generalize left : m s = a at first
  generalize right : m' t = b at first
  cases first with
  | error same sessions =>
      rw [Stage.map_of_error left, Stage.map_of_error right]
      exact .error same sessions
  | ok answer sessions =>
      rw [Stage.map_of_ok left, Stage.map_of_ok right]
      exact .ok (rest answer) sessions

theorem write_bind {entry entry' : Entry P α S} {f : Unit → Stage P α S G σ β} {f' : Unit → Stage P α S G σ γ}
    (rest : Alike rel errors answers (f () s) (f' () t)) :
    Alike rel errors answers ((Stage.write entry >>= f) s) ((Stage.write entry' >>= f') t) := by
  generalize left : f () s = a at rest
  generalize right : f' () t = b at rest
  cases rest with
  | ok answer sessions =>
      rw [Stage.write_bind_of left, Stage.write_bind_of right]
      exact .ok answer sessions
  | error same sessions =>
      rw [Stage.write_bind_of left, Stage.write_bind_of right]
      exact .error same sessions

theorem imp {rel' : Session P α S G σ → Session P α S G σ → Prop} {answers' : β → γ → Prop}
    {a : Except SolveError β × Session P α S G σ × Journal P α S}
    {b : Except SolveError γ × Session P α S G σ × Journal P α S} (h : Alike rel errors answers a b)
    (sessions : ∀ {s t}, rel s t → rel' s t) (weaker : ∀ {x y}, answers x y → answers' x y) :
    Alike rel' errors answers' a b := by
  cases h with
  | ok answer related => exact .ok (weaker answer) (sessions related)
  | error same related => exact .error same (sessions related)

theorem ofExcept {wrap : Failure → SolveError} {result : Except Failure β} {result' : Except Failure γ}
    (results : ExceptRel (fun failure failure' => errors (wrap failure) (wrap failure')) answers result result')
    (sessions : rel s t) : Alike rel errors answers (Stage.ofExcept wrap result s) (Stage.ofExcept wrap result' t) := by
  cases results with
  | ok answer => exact .ok answer sessions
  | error same => exact .error same sessions

theorem ofExcept_refl (same : ∀ e, errors e e) (wrap : Failure → SolveError) (result : Except Failure β)
    (sessions : rel s t) :
    Alike rel errors Eq (Stage.ofExcept wrap result s) (Stage.ofExcept wrap result t) := by
  cases result with
  | ok => exact .ok rfl sessions
  | error => exact .error (same _) sessions

end Alike

def Journal.Alike (events : Event P S → Event P S → Prop) (journal journal' : Journal P α S) : Prop :=
  List.Forall₂ (fun shown shown' => events shown.1 shown'.1 ∧ shown.2 = shown'.2) journal.events journal'.events

structure Outcome.Alike (rel : Session P α S G σ → Session P α S G σ → Prop) (endings : ε → ε → Prop)
    (events : Event P S → Event P S → Prop) (out out' : Outcome P α S G σ ω ε) : Prop where
  ending : endings out.ending out'.ending
  session : rel out.session out'.session
  watcher : out.watcher = out'.watcher
  journal : out.journal.Alike events out'.journal

namespace Journal.Alike
variable {events : Event P S → Event P S → Prop} {first first' last last' : Journal P α S}

theorem of_silent (silent : last.events = []) (silent' : last'.events = []) : last.Alike events last' := by
  rw [Journal.Alike, silent, silent']
  exact .nil

theorem append (h : first.Alike events first') (rest : last.Alike events last') :
    (first ++ last).Alike events (first' ++ last') := by
  rw [Journal.Alike, events_append, events_append]
  exact List.rel_append h rest

theorem of_reported {event event' : Event P S} (silent : first.events = []) (silent' : first'.events = [])
    (same : events event event') (verdict : Verdict) (notes : List (LogRecord S)) :
    (reported first event verdict notes).Alike events (reported first' event' verdict notes) := by
  rw [Journal.Alike, reported_events silent, reported_events silent']
  exact .cons ⟨same, rfl⟩ .nil

end Journal.Alike

variable [Score S] {strategies strategies' : Strategies P α S G σ} {observer : Observer P S ω}
  {events : Event P S → Event P S → Prop} {watcher watcher' : ω} {n : Nat} {journal : Journal P α S}

omit [Score S] in
theorem events_finished (strategies : Strategies P α S G σ) (s : Session P α S G σ) :
    (finished strategies s).2.2.events = [] := by
  rcases decides_or_unset strategies s with ⟨stop, t, journal, decides⟩ | ⟨absent, unset⟩
  · rw [finished_of_decides decides]
    exact decides.events
  · rw [finished_of_unset absent unset]
    rfl

theorem events_iterate (strategies : Strategies P α S G σ) (valid : s.state.settings.validate = .ok ()) :
    (iterate strategies s).2.2.events = [] := by
  obtain ⟨result, t, journal, course⟩ := Iteration.exists_course strategies valid
  rw [Iteration.iterate_of_course course]
  exact course.events

/-- Two sets of strategies whose iterations and stop decisions go alike from sessions in a relation. -/
structure InStep (strategies strategies' : Strategies P α S G σ)
    (rel : Session P α S G σ → Session P α S G σ → Prop) (errors : SolveError → SolveError → Prop)
    (events : Event P S → Event P S → Prop) : Prop where
  settled : ∀ {s t}, rel s t → t.state.settings.validate = s.state.settings.validate
  iterates : ∀ {s t}, s.state.settings.validate = .ok () → rel s t →
    Alike rel errors events (iterate strategies s) (iterate strategies' t)
  decides : ∀ {s t}, rel s t → Alike rel errors Eq (finished strategies s) (finished strategies' t)

/-- An observer that answers alike, and remembers the same, after events in a relation. -/
def Observer.Blind (observer : Observer P S ω) (events : Event P S → Event P S → Prop) : Prop :=
  ∀ {event event'}, events event event' → observer event = observer event'

namespace InStep

theorem step_alike (inStep : InStep strategies strategies' rel errors events) (blind : observer.Blind events)
    (valid : s.state.settings.validate = .ok ()) (sessions : rel s t) (watcher : ω) :
    (step strategies observer s watcher).Alike rel (Option.Rel (ExceptRel errors Eq)) events
      (step strategies' observer t watcher) := by
  have iterates := inStep.iterates valid sessions
  have quiet := events_iterate strategies valid
  have quiet' := events_iterate strategies' ((inStep.settled sessions).trans valid)
  generalize left : iterate strategies s = a at iterates quiet
  generalize right : iterate strategies' t = b at iterates quiet'
  cases iterates with
  | error same sessions =>
      simp only [step, left, right]
      exact ⟨.some (.error same), sessions, rfl, .of_silent quiet quiet'⟩
  | @ok event event' u v journal journal' answer sessions =>
      obtain ⟨verdict, notes, watcher', answered⟩ :
          ∃ verdict notes watcher', observer event watcher = (verdict, notes, watcher') := ⟨_, _, _, rfl⟩
      have answered' := (congrFun (blind answer) watcher).symm.trans answered
      have shown := Journal.Alike.of_reported quiet quiet' answer verdict notes
      cases verdict with
      | stop =>
          simp only [step, left, right, answered, answered']
          exact ⟨.some (.ok rfl), sessions, rfl, shown.append (.of_silent rfl rfl)⟩
      | proceed =>
          have later := inStep.decides sessions
          have silent := events_finished strategies u
          have silent' := events_finished strategies' v
          generalize decided : finished strategies u = a at later silent
          generalize decided' : finished strategies' v = b at later silent'
          have shown := shown.append (.of_silent silent silent')
          cases later with
          | error same sessions =>
              simp only [step, left, right, answered, answered', decided, decided']
              exact ⟨.some (.error same), sessions, rfl, shown⟩
          | @ok stop _ _ _ last last' agreed sessions =>
              subst agreed
              cases stop with
              | false =>
                  simp only [step, left, right, answered, answered', decided, decided']
                  exact ⟨.none, sessions, rfl, shown⟩
              | true =>
                  simp only [step, left, right, answered, answered', decided, decided']
                  exact ⟨.some (.ok rfl), sessions, rfl, shown.append (.of_silent rfl rfl)⟩

theorem runWithin_alike (inStep : InStep strategies strategies' rel errors events) (blind : observer.Blind events)
    (valid : s.state.settings.validate = .ok ()) (sessions : rel s t) (watcher : ω) (limit : Nat) :
    Option.Rel (Outcome.Alike rel (ExceptRel errors Eq) events)
      (runWithin strategies observer limit s watcher) (runWithin strategies' observer limit t watcher) := by
  induction limit generalizing s t watcher with
  | zero => exact .none
  | succ limit ih =>
      have first := inStep.step_alike blind valid sessions watcher
      have made : Step strategies observer s watcher (step strategies observer s watcher) := (step_eq_iff valid).1 rfl
      have settings := made.settings
      rw [runWithin, runWithin]
      rcases left : step strategies observer s watcher with ⟨ending, u, between, journal⟩
      rcases right : step strategies' observer t watcher with ⟨ending', v, between', journal'⟩
      rw [left] at settings
      rw [left, right] at first
      obtain ⟨endings, sessions, rfl, shown⟩ := first
      cases endings with
      | some same => exact .some ⟨same, sessions, rfl, shown⟩
      | none =>
          have rest := ih ((congrArg Settings.validate settings).trans valid) sessions between
          dsimp only at rest ⊢
          generalize runWithin strategies observer limit u between = a at rest ⊢
          generalize runWithin strategies' observer limit v between = b at rest ⊢
          cases rest with
          | none => exact .none
          | some rest =>
              exact .some ⟨rest.ending, rest.session, rest.watcher, shown.append rest.journal⟩

theorem proceeds_alike (inStep : InStep strategies strategies' rel errors events) (blind : observer.Blind events)
    (valid : s.state.settings.validate = .ok ()) (sessions : rel s t) {u : Session P α S G σ}
    (h : Proceeds strategies observer n s watcher u watcher' journal) :
    ∃ v journal', Proceeds strategies' observer n t watcher v watcher' journal' ∧ rel u v ∧
      journal.Alike events journal' := by
  induction h generalizing t with
  | refl => exact ⟨t, [], .refl, sessions, .of_silent rfl rfl⟩
  | @next n s _ _ watcher _ _ _ _ first _ ih =>
      have alike := inStep.step_alike blind valid sessions watcher
      have settings := ((step_eq_iff valid).1 first).settings
      rcases right : step strategies' observer t watcher with ⟨ending', v, between', journal'⟩
      rw [first, right] at alike
      obtain ⟨endings, sessions, rfl, shown⟩ := alike
      cases endings
      obtain ⟨u, later, proceeds, sessions, rest⟩ := ih ((congrArg Settings.validate settings).trans valid) sessions
      exact ⟨u, journal' ++ later, .next right proceeds, sessions, shown.append rest⟩

end InStep

theorem Proceeds.unique {watcher'' : ω} {u : Session P α S G σ} {journal' : Journal P α S}
    (h : Proceeds strategies observer n s watcher t watcher' journal)
    (h' : Proceeds strategies observer n s watcher u watcher'' journal') :
    t = u ∧ watcher' = watcher'' ∧ journal = journal' := by
  induction h generalizing journal' with
  | refl =>
      cases h'
      exact ⟨rfl, rfl, rfl⟩
  | next first _ ih =>
      cases h' with
      | next first' rest' =>
          cases first.symm.trans first'
          obtain ⟨rfl, rfl, rfl⟩ := ih rest'
          exact ⟨rfl, rfl, rfl⟩

/-- After so many iterations both runs are over, or both go on, and what they have left is in a relation. -/
inductive Problem.Lockstep (p q : Problem P α S G σ) (observer : Observer P S ω) (watcher : ω)
    (rel : Session P α S G σ → Session P α S G σ → Prop) (errors : SolveError → SolveError → Prop)
    (events : Event P S → Event P S → Prop) (n : Nat) : Prop
  | ended {out out' : Outcome P α S G σ ω (Except SolveError Ending)}
      (made : p.solveUnder observer watcher n = some out) (made' : q.solveUnder observer watcher n = some out')
      (alike : out.Alike rel (ExceptRel errors Eq) events out') : Lockstep p q observer watcher rel errors events n
  | goesOn {s t watcher' journal journal'}
      (proceeds : Proceeds p.strategies observer n p.fresh watcher s watcher' journal)
      (proceeds' : Proceeds q.strategies observer n q.fresh watcher t watcher' journal') (sessions : rel s t)
      (shown : journal.Alike events journal') : Lockstep p q observer watcher rel errors events n

theorem InStep.lockstep {p q : Problem P α S G σ} (inStep : InStep p.strategies q.strategies rel errors events)
    (blind : observer.Blind events) (same : ∀ e, errors e e) (sessions : rel p.session q.session)
    (fresh : rel p.fresh q.fresh) (watcher : ω) (n : Nat) :
    p.Lockstep q observer watcher rel errors events n := by
  have settled := inStep.settled sessions
  cases valid : p.settings.validate with
  | error invalid =>
      exact .ended (Problem.solveUnder_of_invalid valid) (Problem.solveUnder_of_invalid (settled.trans valid))
        ⟨.error (same _), sessions, rfl, .of_silent rfl rfl⟩
  | ok =>
      rcases ends_or_proceeds p.strategies observer p.fresh watcher n with
        ⟨out, made⟩ | ⟨t, watcher', journal, proceeds⟩
      · have alike := inStep.runWithin_alike (s := p.fresh) blind valid fresh watcher n
        rw [made] at alike
        rcases made' : runWithin q.strategies observer n q.fresh watcher with _ | out'
        · rw [made'] at alike
          cases alike
        · rw [made'] at alike
          cases alike with
          | some alike =>
              exact .ended ((Problem.solveUnder_of_valid valid).trans made)
                ((Problem.solveUnder_of_valid (settled.trans valid)).trans made') alike
      · obtain ⟨u, journal', proceeds', sessions, shown⟩ :=
          inStep.proceeds_alike (s := p.fresh) blind valid fresh proceeds
        exact .goesOn proceeds proceeds' sessions shown

end CrossEntropy
