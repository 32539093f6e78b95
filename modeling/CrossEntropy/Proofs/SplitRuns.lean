import CrossEntropy.Family.Strategies
import CrossEntropy.Proofs.Indistinguishable
import CrossEntropy.Proofs.IterationLimit
import CrossEntropy.Search.Stock

namespace CrossEntropy
variable {P α R S G σ β γ : Type}

/-- What strategies see of a state that look neither at the count of iterations nor at its limit. -/
def State.uncounted (s : State P S) : State P S :=
  { s with numIters := 0, settings := { s.settings with maxIters := none } }

theorem State.params_of_uncounted {s t : State P S} (same : s.uncounted = t.uncounted) : s.params = t.params := by
  have fields := congrArg State.params same
  exact fields

theorem State.numSamples_of_uncounted {s t : State P S} (same : s.uncounted = t.uncounted) :
    s.settings.numSamples = t.settings.numSamples := by
  have fields := congrArg (fun u : State P S => u.settings.numSamples) same
  exact fields

def State.recounted (s : State P S) (ahead limit : Nat) : State P S :=
  { s with numIters := s.numIters + ahead, settings := { s.settings with maxIters := some limit } }

def Session.recounted (s : Session P α S G σ) (ahead limit : Nat) : Session P α S G σ :=
  { s with state := s.state.recounted ahead limit }

def Problem.withMaxIters (p : Problem P α S G σ) (limit : Nat) : Problem P α S G σ :=
  p.withSettings fun c => { c with maxIters := some limit }

section Families

variable [Scalar R] [Mix R P] {strategies : Strategies P α S G σ} {smoothing : Option (Smoothing R)}

theorem Strategies.SeesOnly.of_smoothing {generator : Generator P α S G σ} {estimator : Estimator P α S σ}
    (generates : ∀ {s t : State P S}, s.params = t.params → s.settings.numSamples = t.settings.numSamples →
      generator s = generator t)
    (estimates : ∀ {elite : Tensor α} {s t : State P S}, s.params = t.params → estimator elite s = estimator elite t)
    (generated : strategies.generator = some generator) (estimated : strategies.estimator = some estimator)
    (updated : strategies.updater = smoothing.map (·.updater)) : strategies.SeesOnly State.uncounted where
  generator installed s t same := by
    obtain rfl : generator = _ := Option.some.inj (generated.symm.trans installed)
    exact generates (State.params_of_uncounted same) (State.numSamples_of_uncounted same)
  estimator installed elite s t same := by
    obtain rfl : estimator = _ := Option.some.inj (estimated.symm.trans installed)
    exact estimates (State.params_of_uncounted same)
  updater installed estimated s t same := by
    obtain ⟨smoothing, -, rfl⟩ := Option.map_eq_some_iff.1 (updated.symm.trans installed)
    funext memory
    simp only [Smoothing.updater, Updater.mix, State.params_of_uncounted same]

variable [Variates R G] (smoothing : Option (Smoothing R))

theorem Gaussian.seesOnly :
    ({ Gaussian.strategies with updater := smoothing.map (·.updater) } :
      Strategies (Gaussian R) R S G σ).SeesOnly State.uncounted := by
  refine .of_smoothing (fun params size => ?_) (fun params => ?_) rfl rfl rfl
  · funext rng memory
    simp only [Gaussian.generator, params, size]
  · funext memory
    simp only [Gaussian.estimator, params]

theorem Beta.seesOnly :
    ({ Beta.strategies with updater := smoothing.map (·.updater) } :
      Strategies (Beta R) R S G σ).SeesOnly State.uncounted := by
  refine .of_smoothing (fun params size => ?_) (fun params => ?_) rfl rfl rfl
  · funext rng memory
    simp only [Beta.generator, params, size]
  · funext memory
    simp only [Beta.estimator, params]

theorem Categorical.seesOnly :
    ({ Categorical.strategies with updater := smoothing.map (·.updater) } :
      Strategies (Tensor R) Nat S G σ).SeesOnly State.uncounted := by
  refine .of_smoothing (fun params size => ?_) (fun params => ?_) rfl rfl rfl
  · funext rng memory
    simp only [Categorical.generator, params, size]
  · funext memory
    simp only [Categorical.estimator, params]

end Families

theorem Score.graded_eq [Score S] : Score.Graded (Eq : S → S → Prop) where
  lt := by
    rintro x _ x' _ rfl rfl
    exact Iff.rfl
  select := by
    intro xs ys same k
    rw [List.forall₂_eq_eq_eq] at same
    subst same
    cases Elite.select? xs k with
    | none => exact .none
    | some elite => exact .some ⟨rfl, rfl, rfl⟩

theorem Strategies.SeesOnly.unaware [Score S] {strategies : Strategies P α S G σ}
    (sees : strategies.SeesOnly State.uncounted) (ahead limit : Nat) :
    strategies.Unaware id Eq State.uncounted fun s t => t = s.recounted ahead limit where
  graded := Score.graded_eq
  isNaN _ := rfl
  translated _ := rfl
  sees := sees
  view := by rintro s _ rfl; rfl
  numSamples := by rintro s _ rfl; rfl
  numElite := by rintro s _ rfl; rfl
  trackBest := by rintro s _ rfl; rfl
  bestScore := by rintro s _ rfl; rfl
  withScores := by
    rintro s _ low low' bound bound' rfl lows bounds
    have eq_of_rel {x y : Option S} (same : Option.Rel Eq x y) : x = y := by
      cases same with
      | some same => exact congrArg some same
      | none => rfl
    obtain rfl := eq_of_rel lows
    obtain rfl := eq_of_rel bounds
    rfl
  withBest := by rintro s _ x _ rfl rfl; rfl
  adopting := by
    rintro s _ params rfl
    simp only [State.recounted, Nat.add_right_comm]

variable [Score S] {strategies : Strategies P α S G σ} {s t u : Session P α S G σ} {before after : Journal P α S}
  {m n a b : Nat} {result : Except SolveError Unit}

def iterations (strategies : Strategies P α S G σ) : Nat → Stage P α S G σ Unit
  | 0 => pure ()
  | n + 1 => do
      let _ ← iterate strategies
      iterations strategies n

omit [Score S] in
theorem Stage.bind_assoc {δ : Type} (first : Stage P α S G σ β) (f : β → Stage P α S G σ γ) (g : γ → Stage P α S G σ δ)
    (s : Session P α S G σ) : (first >>= f >>= g) s = (first >>= fun x => f x >>= g) s := by
  rcases made : first s with ⟨e | x, t, before⟩
  · rw [Stage.bind_of_error made, Stage.bind_of_error (Stage.bind_of_error made)]
  · rcases later : f x t with ⟨e | y, u, between⟩
    · rw [Stage.bind_of_error (Stage.bind_of_ok made later), Stage.bind_of_ok made (Stage.bind_of_error later)]
    · rcases last : g y u with ⟨result, v, after⟩
      rw [Stage.bind_of_ok (Stage.bind_of_ok made later) last, Stage.bind_of_ok made (Stage.bind_of_ok later last),
        List.append_assoc]

theorem iterations_add (strategies : Strategies P α S G σ) (a b : Nat) :
    iterations strategies (a + b) = iterations strategies a >>= fun _ => iterations strategies b := by
  induction a with
  | zero =>
      funext s
      rw [Nat.zero_add]
      rfl
  | succ a ih =>
      funext s
      rw [Nat.add_right_comm, iterations, iterations, ih, Stage.bind_assoc]

omit [Score S] in
theorem Session.eq_of_like {ahead limit : Nat} (like : s.Like (fun s t => t = s.recounted ahead limit) t) :
    t = s.recounted ahead limit := by
  obtain ⟨state, rng, memory, bestSample⟩ := t
  obtain ⟨rfl, rfl, rfl, rfl⟩ := like
  rfl

theorem iterations_alike (sees : strategies.SeesOnly State.uncounted) (ahead limit n : Nat) :
    Alike (fun s t => t = s.recounted ahead limit) Eq Eq (iterations strategies n s)
      (iterations strategies n (s.recounted ahead limit)) := by
  induction n generalizing s with
  | zero => exact .ok rfl rfl
  | succ n ih =>
      have first := (sees.unaware ahead limit).iterate_alike (s := s) (t := s.recounted ahead limit)
        ⟨rfl, rfl, rfl, rfl⟩
      rw [Strategies.rescored_id] at first
      have goes : Alike (fun s t => t = s.recounted ahead limit) Eq (fun _ _ => True) (iterate strategies s)
          (iterate strategies (s.recounted ahead limit)) := first.imp Session.eq_of_like fun _ => trivial
      refine Alike.bind goes ?_
      rintro _ _ u _ - rfl
      exact ih

theorem iterations_recounted (sees : strategies.SeesOnly State.uncounted) (ahead limit : Nat)
    (made : iterations strategies n s = (result, t, before)) :
    ∃ after, iterations strategies n (s.recounted ahead limit) = (result, t.recounted ahead limit, after) := by
  have alike := iterations_alike (s := s) sees ahead limit n
  rcases made' : iterations strategies n (s.recounted ahead limit) with ⟨result', u, after⟩
  rw [made, made'] at alike
  cases alike with
  | ok same sessions | error same sessions =>
      subst same sessions
      exact ⟨after, rfl⟩

theorem runWithin_of_iterations (absent : strategies.stopRule = none) (valid : s.state.settings.validate = .ok ())
    (set : s.state.settings.maxIters = some (s.state.numIters + (n + 1)))
    (made : iterations strategies (n + 1) s = (result, t, before)) :
    ∃ journal, runWithin strategies .silent (n + 1) s () = some ⟨result.map fun _ => .stopRule, t, (), journal⟩ := by
  induction n generalizing s before with
  | zero =>
      rw [runWithin, step]
      rcases iterated : iterate strategies s with ⟨e | event, u, journal⟩
      · cases made.symm.trans (Stage.bind_of_error iterated)
        exact ⟨_, rfl⟩
      · cases made.symm.trans (Stage.bind_of_ok iterated rfl)
        have course := (Iteration.iterate_eq_iff valid).1 iterated
        have decides := Decides.limit absent (course.settings.symm ▸ set)
        have reached : s.state.numIters + (0 + 1) ≤ t.state.numIters := Nat.le_of_eq course.reports.1.symm
        simp only [Observer.silent, finished_of_decides decides, reached, decide_true]
        exact ⟨_, rfl⟩
  | succ n ih =>
      rw [runWithin, step]
      rcases iterated : iterate strategies s with ⟨e | event, u, journal⟩
      · cases made.symm.trans (Stage.bind_of_error iterated)
        exact ⟨_, rfl⟩
      · rcases rest : iterations strategies (n + 1) u with ⟨ending, v, later⟩
        cases made.symm.trans (Stage.bind_of_ok iterated rest)
        have course := (Iteration.iterate_eq_iff valid).1 iterated
        have settings := course.settings
        have counted := course.reports.1
        have decides := Decides.limit absent (settings.symm ▸ set)
        have below : ¬s.state.numIters + (n + 1 + 1) ≤ u.state.numIters := by omega
        have set' : u.state.settings.maxIters = some (u.state.numIters + (n + 1)) := by
          rw [settings, set, counted]
          congr 1
          omega
        obtain ⟨journal', done⟩ := ih (settings.symm ▸ valid) set' rest
        simp only [Observer.silent, finished_of_decides decides, below, decide_false, done, Option.map_some]
        exact ⟨_, rfl⟩

theorem iterations_counted (valid : s.state.settings.validate = .ok ())
    (made : iterations strategies n s = (.ok (), t, before)) :
    t.state.settings = s.state.settings ∧ t.state.numIters = s.state.numIters + n := by
  induction n generalizing s before with
  | zero =>
      cases made
      exact ⟨rfl, rfl⟩
  | succ n ih =>
      rcases iterated : iterate strategies s with ⟨e | event, u, journal⟩
      · cases made.symm.trans (Stage.bind_of_error iterated)
      · rcases rest : iterations strategies n u with ⟨ending, v, later⟩
        cases made.symm.trans (Stage.bind_of_ok iterated rest)
        have course := (Iteration.iterate_eq_iff valid).1 iterated
        obtain ⟨settings, counted⟩ := ih (course.settings.symm ▸ valid) rest
        have one := course.reports.1
        exact ⟨settings.trans course.settings, by omega⟩

theorem Problem.solve_of_iterations {p : Problem P α S G σ} (absent : p.strategies.stopRule = none)
    (valid : p.settings.validate = .ok ()) (pos : 1 ≤ m)
    (made : iterations p.strategies m (p.withMaxIters m).fresh = (result, t, before)) :
    ∃ out, (∀ limit, m ≤ limit → (p.withMaxIters m).solve limit = some out) ∧
      out.ending = result.map (fun _ => Ending.stopRule) ∧ out.session = t := by
  obtain ⟨n, rfl⟩ : ∃ n, m = n + 1 := ⟨m - 1, by omega⟩
  have set : (p.withMaxIters (n + 1)).fresh.state.settings.maxIters = some (0 + (n + 1)) := by
    rw [Nat.zero_add]
    rfl
  obtain ⟨journal, run⟩ := runWithin_of_iterations (s := (p.withMaxIters (n + 1)).fresh) absent valid set made
  exact ⟨_, fun limit le => (solveUnder_of_valid (p := p.withMaxIters (n + 1)) valid).trans
    (runWithin_mono le run), rfl, rfl⟩

/-- A run of `a + b` iterations next to one of `a` and another one for the rest. -/
inductive Problem.Splits (p : Problem P α S G σ) (a b : Nat) : Prop
  | fails {e : SolveError} {first whole : Outcome P α S G σ Unit (Except SolveError Ending)}
      (runs : ∀ limit, a ≤ limit → (p.withMaxIters a).solve limit = some first)
      (whole_runs : ∀ limit, a + b ≤ limit → (p.withMaxIters (a + b)).solve limit = some whole)
      (failed : first.ending = .error e) (whole_failed : whole.ending = .error e)
      (session : whole.session = first.session.recounted 0 (a + b)) : Splits p a b
  | resumes {first second whole : Outcome P α S G σ Unit (Except SolveError Ending)}
      (runs : ∀ limit, a ≤ limit → (p.withMaxIters a).solve limit = some first)
      (ended : first.ending = .ok .stopRule)
      (second_runs : ∀ limit, b ≤ limit →
        ({ p with session := first.session }.withMaxIters b).solve limit = some second)
      (whole_runs : ∀ limit, a + b ≤ limit → (p.withMaxIters (a + b)).solve limit = some whole)
      (ending : whole.ending = second.ending) (session : whole.session = second.session.recounted a (a + b))
      (counted : (∃ e, second.ending = .error e) ∨
        second.ending = .ok .stopRule ∧ second.session.state.numIters = b) : Splits p a b

omit [Score S] in
theorem Problem.recounted_fresh (p : Problem P α S G σ) (counted : s.state.numIters = a) :
    ({ p with session := s }.withMaxIters b).fresh.recounted a (a + b) = s.recounted 0 (a + b) := by
  simp only [Session.recounted, State.recounted, fresh, withMaxIters, withSettings, withSession, state, counted,
    Nat.zero_add, Nat.add_zero]

theorem Problem.splits_of_valid {p : Problem P α S G σ} (absent : p.strategies.stopRule = none)
    (sees : p.strategies.SeesOnly State.uncounted) (ha : 1 ≤ a) (hb : 1 ≤ b) (valid : p.settings.validate = .ok ()) :
    p.Splits a b := by
  have pos : 1 ≤ a + b := by omega
  rcases made : iterations p.strategies a (p.withMaxIters a).fresh with ⟨e | _, t, before⟩
  · obtain ⟨first, runs, failed, left⟩ := solve_of_iterations absent valid ha made
    obtain ⟨after, same⟩ := iterations_recounted sees 0 (a + b) made
    have all := (congrFun (iterations_add p.strategies a b) _).trans (Stage.bind_of_error same)
    obtain ⟨whole, runs', failed', left'⟩ := solve_of_iterations absent valid pos all
    exact .fails runs runs' failed failed' (by rw [left, left'])
  · obtain ⟨first, runs, ended, rfl⟩ := solve_of_iterations absent valid ha made
    obtain ⟨after, same⟩ := iterations_recounted sees 0 (a + b) made
    obtain ⟨settings, counted⟩ := iterations_counted (s := (p.withMaxIters a).fresh) valid made
    have counted : first.session.state.numIters = a := counted.trans (Nat.zero_add a)
    let q : Problem P α S G σ := { p with session := first.session }
    have valid' : q.settings.validate = .ok () := (congrArg Settings.validate settings).trans valid
    rcases rest : iterations q.strategies b (q.withMaxIters b).fresh with ⟨result, u, later⟩
    obtain ⟨second, runs', ended', rfl⟩ := solve_of_iterations (p := q) absent valid' hb rest
    obtain ⟨_, rest'⟩ := iterations_recounted sees a (a + b) rest
    rw [recounted_fresh p counted] at rest'
    have all := (congrFun (iterations_add p.strategies a b) _).trans (Stage.bind_of_ok same rest')
    obtain ⟨whole, runs'', ended'', left⟩ := solve_of_iterations absent valid pos all
    refine .resumes runs ended runs' runs'' (ended''.trans ended'.symm) left ?_
    cases result with
    | error e => exact .inl ⟨e, ended'⟩
    | ok =>
        have counted' := (iterations_counted (s := (q.withMaxIters b).fresh) valid' rest).2
        exact .inr ⟨ended', counted'.trans (Nat.zero_add b)⟩

/-- A run of so many iterations is the same as a shorter run followed by a run for the rest of them, and if it
fails, one of the two fails with the same error. This holds of strategies that do not look at the count or its
limit, and those of the families do not. -/
theorem run_splits :
    (∀ {p : Problem P α S G σ} {a b : Nat}, p.strategies.stopRule = none →
      p.strategies.SeesOnly State.uncounted → 1 ≤ a → 1 ≤ b → p.Splits a b) ∧
    ∀ {R G σ : Type} [Scalar R] [Variates R G] (smoothing : Option (Smoothing R)),
      ({ Gaussian.strategies with updater := smoothing.map (·.updater) } :
        Strategies (Gaussian R) R S G σ).SeesOnly State.uncounted ∧
      ({ Beta.strategies with updater := smoothing.map (·.updater) } :
        Strategies (Beta R) R S G σ).SeesOnly State.uncounted ∧
      ({ Categorical.strategies with updater := smoothing.map (·.updater) } :
        Strategies (Tensor R) Nat S G σ).SeesOnly State.uncounted := by
  constructor
  · intro p a b absent sees ha hb
    cases valid : p.settings.validate with
    | error invalid =>
        have failed (m limit : Nat) : (p.withMaxIters m).solve limit = _ := Problem.solveUnder_of_invalid valid
        exact .fails (fun limit _ => failed a limit) (fun limit _ => failed (a + b) limit) rfl rfl rfl
    | ok => exact Problem.splits_of_valid absent sees ha hb valid
  · intro R G σ _ _ smoothing
    exact ⟨Gaussian.seesOnly smoothing, Beta.seesOnly smoothing, Categorical.seesOnly smoothing⟩

theorem splits_of_countedBefore :
    countedBefore.strategies.stopRule = none ∧ countedBefore.strategies.SeesOnly State.uncounted ∧
      ∃ first whole second, (countedBefore.withMaxIters 2).solve 2 = some first ∧
        (countedBefore.withMaxIters 3).solve 3 = some whole ∧
        ({ countedBefore with session := first.session }.withMaxIters 1).solve 1 = some second ∧
        whole.ending = .ok .stopRule ∧ whole.session = second.session.recounted 2 3 ∧
        whole.session.state.params = 3 := by
  have sees : countedBefore.strategies.SeesOnly State.uncounted := by
    refine ⟨?_, ?_, fun none => by cases none⟩
    · rintro _ ⟨⟩ s t same
      rfl
    · rintro _ ⟨⟩ elite s t same
      have params := congrArg (fun u : State Nat Float => u.params) same
      change s.params = t.params at params
      funext memory
      simp only [params]
  have three : ((countedBefore.withMaxIters 3).solve 3).map
      (fun out => (out.ending.toOption, out.session.state.params)) = some (some .stopRule, 3) := by decide +kernel
  cases run_splits.1 rfl sees (by decide : 1 ≤ 2) (by decide : 1 ≤ 1) with
  | fails runs runs' failed failed' =>
      rw [runs' 3 (by decide), Option.map_some, failed'] at three
      cases three
  | @resumes first second whole runs ended runs' runs'' ending session counted =>
      rw [runs'' 3 (by decide), Option.map_some, Option.some.injEq, Prod.mk.injEq] at three
      have stopped : whole.ending = .ok .stopRule := by
        cases result : whole.ending with
        | error => rw [result] at three; cases three.1
        | ok => rw [result] at three; exact congrArg Except.ok (Option.some.inj three.1)
      exact ⟨rfl, sees, first, whole, second, runs 2 (by decide), runs'' 3 (by decide), runs' 1 (by decide), stopped,
        session, three.2⟩

end CrossEntropy
