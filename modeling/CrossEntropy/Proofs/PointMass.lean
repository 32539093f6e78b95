import CrossEntropy.Proofs.ExactArithmetic
import CrossEntropy.Proofs.Positivity
import CrossEntropy.Proofs.Reordering
import CrossEntropy.Proofs.SortedScores
import CrossEntropy.Proofs.Stochastic

namespace CrossEntropy
variable {G σ ω : Type}

theorem mean_replicate (x : ℝ) (n : Nat) : mean (List.replicate (n + 1) x) = x := by
  have positive : ((n + 1 : Nat) : ℝ) ≠ 0 := Nat.cast_ne_zero.2 (Nat.succ_ne_zero n)
  rw [mean_eq, List.sum_replicate, List.length_replicate, nsmul_eq_mul, mul_div_cancel_left₀ x positive]

theorem variance_replicate (x : ℝ) (n : Nat) : variance (List.replicate n x) = 0 := by
  by_cases more : 1 < (List.replicate n x).length
  · obtain ⟨m, rfl⟩ : ∃ m, n = m + 1 := Nat.exists_eq_succ_of_ne_zero (by rw [List.length_replicate] at more; omega)
    rw [variance_eq more, mean_replicate, List.map_replicate, sub_self, List.sum_replicate]
    simp
  · rw [variance, if_neg more]

namespace Tensor
variable {α : Type} {a batch : Tensor α} {n : Nat} {i : List Nat}

theorem eq_replicate {shape : Shape} {x : α} (shaped : a.shape = shape)
    (entries : ∀ {i : List Nat}, shape.InBounds i → a[i]? = some x) : a = .replicate shape x :=
  ext_getElem? (a := .replicate shape x) shaped fun inside => (entries inside).trans (getElem?_replicate inside).symm

theorem lane_of_replicate {x : Tensor α} (rows : batch.rows = List.replicate n x) (inside : x.shape.InBounds i) :
    batch.lane 0 i = List.replicate n (x.get i inside) := by
  rw [lane_zero, rows, List.filterMap_replicate_of_some (dif_pos inside)]

end Tensor

def Scorer.OfSample {α S : Type} (scorer : Scorer α S σ) (f : Tensor α → Except Failure S) : Prop :=
  ∀ sample memory, (scorer sample memory).1 = f sample

theorem Scores.ofSample {α S : Type} [Score S] {scorer : Scorer α S σ} {f : Tensor α → Except Failure S}
    (pure : scorer.OfSample f) {samples : List (Tensor α)} {scores : List S} {memory last : σ}
    (h : Scores scorer memory samples scores last) : scores.map Except.ok = samples.map f := by
  induction h with
  | nil => rfl
  | cons returned _ _ ih => rw [List.map_cons, List.map_cons, ih, ← pure, returned]

namespace Gaussian
open Iteration

noncomputable def pointMass (x : Tensor ℝ) : Gaussian ℝ := ⟨x, .replicate x.shape 0⟩

structure Collapsed (p : Gaussian ℝ) : Prop where
  shape : p.stddev.shape = p.mean.shape
  zero : ∀ x ∈ p.stddev.toList, x = 0

theorem collapsed_iff {p : Gaussian ℝ} : p.Collapsed ↔ p = pointMass p.mean := by
  constructor
  · intro collapsed
    have stddev : p.stddev = .replicate p.mean.shape 0 := by
      refine Tensor.eq_replicate collapsed.shape fun {i} inside => ?_
      have inside' : p.stddev.shape.InBounds i := collapsed.shape.symm ▸ inside
      have entry : p.stddev[i]? = some (p.stddev.get i inside') := dif_pos inside'
      rw [entry, collapsed.zero _ (Tensor.get_mem_toList ..)]
    rw [pointMass, ← stddev]
  · intro same
    rw [same]
    refine ⟨rfl, fun x member => ?_⟩
    have entries : (pointMass p.mean).stddev.toList = List.replicate _ 0 := Array.toList_replicate
    exact List.eq_of_mem_replicate (entries ▸ member)

theorem shaped_pointMass (x : Tensor ℝ) : (pointMass x).Shaped x.shape := ⟨rfl, rfl⟩

theorem fit?_replicate {elite x : Tensor ℝ} {n : Nat} (shaped : elite.shape = (n + 1) :: x.shape)
    (rows : elite.rows = List.replicate (n + 1) x) : fit? elite = some (pointMass x) := by
  obtain ⟨fitted, fits, shape, entries⟩ := entries_of_fit? shaped
  have mean : fitted.mean = x := by
    refine Tensor.ext_getElem? shape.mean fun {i} inside => ?_
    have entry : x[i]? = some (x.get i inside) := dif_pos inside
    rw [(entries inside).1, Tensor.lane_of_replicate rows inside, mean_replicate, entry]
  have stddev : fitted.stddev = .replicate x.shape 0 := by
    refine Tensor.eq_replicate shape.stddev fun {i} inside => ?_
    rw [(entries inside).2, Tensor.lane_of_replicate rows inside, variance_replicate]
    exact congrArg some Real.sqrt_zero
  rw [fits, pointMass, ← stddev, ← mean]

theorem mix?_pointMass {w : ℝ} {x : Tensor ℝ} {params : Gaussian ℝ}
    (mixed : mix? w (pointMass x) (pointMass x) = some params) : params = pointMass x := by
  have same {a m : Tensor ℝ} (mixed : mix? w a a = some m) : m = a := by
    obtain ⟨shape, entries⟩ := Tensor.entries_of_mix? mixed rfl
    refine Tensor.ext_getElem? shape fun {i} inside => ?_
    have entry : a[i]? = some (a.get i inside) := dif_pos inside
    rw [entries entry entry, entry, Option.some.injEq]
    ring
  obtain ⟨mean, stddev⟩ := parts_of_mix? mixed
  have mean : params.mean = x := same mean
  have stddev : params.stddev = .replicate x.shape 0 := same stddev
  rw [pointMass, ← stddev, ← mean]

variable [Variates ℝ G]

theorem rows_of_sample_pointMass {x batch : Tensor ℝ} {count : Nat} {g g' : G}
    (drawn : (pointMass x).sample count g = (.ok batch, g')) : ∀ row ∈ batch.rows, row = x := by
  obtain ⟨batch', drawn', shape, entries⟩ := entries_of_sample (shaped_pointMass x) count g
  obtain rfl := Except.ok.inj (Prod.mk.inj (drawn.symm.trans drawn')).1
  intro row member
  obtain ⟨k, rfl⟩ := List.mem_ofFn.1 member
  refine Tensor.ext_getElem? (Tensor.shape_eq_of_mem_rows shape member) fun {i} inside => ?_
  have mean : (pointMass x).mean[i]? = some (x.get i inside) := dif_pos inside
  have stddev : (pointMass x).stddev[i]? = some 0 := Tensor.getElem?_replicate inside
  rw [Tensor.getElem?_row, entries (Tensor.extent_zero shape ▸ k.2) mean stddev, mul_zero, zero_add]
  exact mean.symm

theorem closed_pointMass (x : Tensor ℝ) :
    Closed ℝ (generator (G := G)) (estimator (σ := σ)) (· = pointMass x) x.shape (· = x) := by
  refine (closed_shapes x.shape).narrow (fun same => same ▸ shaped_pointMass x) (fun same => same ▸ rfl) ?_ ?_ ?_
  · intro s rng rng' memory memory' batch good drawn row member _
    obtain ⟨batch', sampled, -⟩ := entries_of_sample (shaped_pointMass x) s.settings.numSamples rng
    rw [← good] at sampled
    obtain rfl := Except.ok.inj (Prod.mk.inj (drawn.symm.trans (generator_of_sample sampled))).1
    exact rows_of_sample_pointMass (good ▸ sampled) row member
  · intro s elite n memory memory' estimated good shaped known fitted
    have count : elite.rows.length = n + 1 := elite.length_rows.trans (Tensor.extent_zero shaped)
    have rows : elite.rows = List.replicate (n + 1) x := List.eq_replicate_iff.2 ⟨count, known⟩
    obtain rfl := Except.ok.inj (Prod.mk.inj fitted).1
    rw [fit?_replicate shaped rows, Option.getD_some]
  · rintro smoothing estimated current params rfl rfl mixed
    exact mix?_pointMass mixed

omit [Variates ℝ G] in
theorem fit?_single {elite x : Tensor ℝ} (layout : elite.shape = elite.extent 0 :: shape) (single : elite.rows = [x]) :
    fit? elite = some (pointMass x) := by
  have count : elite.extent 0 = 1 := by rw [← elite.length_rows, single, List.length_singleton]
  have member : x ∈ elite.rows := single ▸ List.mem_singleton_self x
  rw [count, ← Tensor.shape_eq_of_mem_rows layout member] at layout
  exact fit?_replicate layout single

theorem shaped_of_generator {S : Type} {s : State (Gaussian ℝ) S} {rng rng' : G} {memory memory' : σ}
    {batch : Tensor ℝ} (drawn : generator s rng memory = (.ok batch, rng', memory')) :
    s.params.Shaped s.params.mean.shape := by
  by_cases same : s.params.mean.shape = s.params.stddev.shape
  · exact ⟨rfl, same.symm⟩
  · rw [generator, sample, dif_neg same] at drawn
    cases drawn

variable {strategies : Strategies (Gaussian ℝ) ℝ Float G σ} {s t u : Session (Gaussian ℝ) ℝ Float G σ}
  {batch chosen x : Tensor ℝ} {scores : List Float} {elite : Elite Float} {journal last : Journal (Gaussian ℝ) ℝ Float}

theorem adopts_single (standard : strategies.Standard ℝ generator estimator) (absent : strategies.updater = none)
    (selects : Selects strategies s batch scores elite chosen u journal) (single : chosen.rows = [x])
    {result : Except SolveError (Event (Gaussian ℝ) Float)} (course : Course strategies s result t last) :
    t.state.params = pointMass x := by
  have shaped : s.state.params.Shaped s.state.params.mean.shape := by
    obtain ⟨drew, _, drawn, -⟩ := selects.source
    cases drawn with
    | intro installed returned =>
        obtain rfl := Option.some.inj (standard.generator.symm.trans installed)
        exact shaped_of_generator returned
  obtain ⟨⟨estimated, returned, -⟩, -⟩ := (closed_shapes _).elite_fits standard shaped selects
  obtain rfl := Except.ok.inj (Prod.mk.inj returned).1
  have made := iterate_of_course (.completed selects (.intro standard.estimator returned) (.keep absent))
  cases (iterate_of_course course).symm.trans made
  exact congrArg (Option.getD · _) (fit?_single selects.chosen.2 single)

/-- From here on the samples of an iteration are copies of the mean, and the parameters stay as they are. If scores
depend on the samples alone, all samples of a batch tie, and all of them are elite. -/
structure Frozen (fixed : Gaussian ℝ) (m : Moment (Gaussian ℝ) ℝ Float G σ) : Prop where
  params : m.problem.params = fixed
  samples : ∃ batch t journal,
    (clearScores >>= fun _ => draw m.problem.strategies) m.problem.session = (.ok batch, t, journal) ∧
      batch.rows = List.replicate m.problem.settings.numSamples fixed.mean
  keeps : m.phase ≠ .idle → ∀ {result t journal},
    iterate m.problem.strategies m.problem.session = (result, t, journal) → t.state.params = fixed
  ties : m.phase ≠ .idle → ∀ {scorer f event t journal}, m.problem.strategies.scorer = some scorer →
    scorer.OfSample f → iterate m.problem.strategies m.problem.session = (.ok event, t, journal) →
    event.minScore = event.eliteScore ∧ event.eliteCount = m.problem.settings.numSamples

theorem rows_of_draws (standard : strategies.Standard ℝ generator estimator) (good : s.state.params = pointMass x)
    (drawn : Draws strategies s batch t) : batch.rows = List.replicate s.state.settings.numSamples x := by
  obtain ⟨-, rows, -⟩ := (closed_pointMass x).drawn standard good drawn
  exact List.eq_replicate_iff.2 ⟨batch.length_rows.trans drawn.sized, rows⟩

theorem ties_of_course (standard : strategies.Standard ℝ generator estimator) (good : s.state.params = pointMass x)
    {scorer : Scorer ℝ Float σ} {f : Tensor ℝ → Except Failure Float} (installed : strategies.scorer = some scorer)
    (pure : scorer.OfSample f) {event : Event (Gaussian ℝ) Float} (course : Course strategies s (.ok event) t journal) :
    event.minScore = event.eliteScore ∧ event.eliteCount = s.state.settings.numSamples := by
  cases course with
  | @completed _ scores elite _ _ _ _ _ _ _ _ selects =>
      cases selects with
      | intro drawn installed' all selected =>
          obtain rfl := Option.some.inj (installed.symm.trans installed')
          have rows := rows_of_draws (s := s.withScores none none) standard good drawn
          have values := all.ofSample pure
          have count := all.length_eq
          rw [rows, List.map_replicate] at values
          rw [rows, List.length_replicate] at count
          have bound := Elite.eliteScore_mem_of_select? selected
          have same : ∀ y ∈ scores, y = elite.eliteScore := fun y member => by
            have one := List.eq_of_mem_replicate (values ▸ List.mem_map_of_mem member)
            have other := List.eq_of_mem_replicate (values ▸ List.mem_map_of_mem bound)
            exact Except.ok.inj (one.trans other.symm)
          have number := all.number _ bound
          have self : elite.eliteScore ≤ elite.eliteScore := float_le_refl number
          obtain ⟨tie, whole⟩ := Elite.select?_of_same same self selected
          exact ⟨tie, whole.trans count⟩

theorem frozen_of_sound {m : Moment (Gaussian ℝ) ℝ Float G σ}
    (sound : Moment.Sound (Strategies.Standard ℝ generator estimator) (· = pointMass x) m) :
    Frozen (pointMass x) m where
  params := sound.params
  samples := by
    obtain ⟨batch, t, drawn⟩ :=
      (closed_pointMass x).exists_draws (s := m.problem.session.withScores none none) sound.strategies sound.params
    have rows := rows_of_draws (s := m.problem.session.withScores none none) sound.strategies sound.params drawn
    exact ⟨batch, t, _, draw_of_draws drawn, rows⟩
  keeps busy _ _ _ made :=
    (closed_pointMass x).keeps sound.strategies sound.params ((iterate_eq_iff (sound.valid busy)).1 made)
  ties busy _ _ _ _ _ installed pure made :=
    ties_of_course sound.strategies sound.params installed pure ((iterate_eq_iff (sound.valid busy)).1 made)

/-- A problem without spread keeps its parameters for life. Without an updater it comes to that as soon as an
elite is a single sample, which is the mean from then on. -/
theorem collapse_is_permanent {p : Problem (Gaussian ℝ) ℝ Float G σ}
    (standard : p.strategies.Standard ℝ generator estimator) :
    (∀ {m later : Moment (Gaussian ℝ) ℝ Float G σ},
      Moment.Leads (Strategies.Standard ℝ generator estimator) ⟨p, .idle⟩ m → m.problem.params.Collapsed →
      Moment.Leads (Strategies.Standard ℝ generator estimator) m later → Frozen m.problem.params later) ∧
    ∀ {q : Problem (Gaussian ℝ) ℝ Float G σ} {ω : Type} {observer : Observer (Gaussian ℝ) Float ω} {watcher : ω}
      {batch scores elite chosen u journal x} {next later : Moment (Gaussian ℝ) ℝ Float G σ},
      Moment.Leads (Strategies.Standard ℝ generator estimator) ⟨p, .idle⟩ ⟨q, .running observer watcher⟩ →
      q.strategies.updater = none → Selects q.strategies q.session batch scores elite chosen u journal →
      chosen.rows = [x] →
      Moment.Next (Strategies.Standard ℝ generator estimator) ⟨q, .running observer watcher⟩ next →
      Moment.Leads (Strategies.Standard ℝ generator estimator) next later → Frozen (pointMass x) later := by
  have start : Moment.Sound (Strategies.Standard ℝ generator estimator) (fun _ => True) ⟨p, .idle⟩ :=
    .idle standard trivial
  have sound {m : Moment (Gaussian ℝ) ℝ Float G σ}
      (leads : Moment.Leads (Strategies.Standard ℝ generator estimator) ⟨p, .idle⟩ m) :=
    start.leads (fun _ _ _ => trivial) leads
  have frozen {x : Tensor ℝ} {m later : Moment (Gaussian ℝ) ℝ Float G σ}
      (leads : Moment.Leads (Strategies.Standard ℝ generator estimator) ⟨p, .idle⟩ m)
      (point : m.problem.params = pointMass x)
      (after : Moment.Leads (Strategies.Standard ℝ generator estimator) m later) : Frozen (pointMass x) later := by
    have here := sound leads
    have fixed : Moment.Sound (Strategies.Standard ℝ generator estimator) (· = pointMass x) m :=
      ⟨here.strategies, here.valid, point⟩
    exact frozen_of_sound (fixed.leads (closed_pointMass x).keeps after)
  constructor
  · intro m later leads collapsed after
    have point := collapsed_iff.1 collapsed
    exact point.symm ▸ frozen leads point after
  · intro q ω observer watcher batch scores elite chosen u journal x next later leads absent selects single first after
    have here := sound leads
    obtain ⟨_, t, _, course, state, -⟩ := first.course (here.valid (by simp))
    have point : next.problem.params = pointMass x := by
      rw [Problem.params, state]
      exact adopts_single here.strategies absent selects single course
    exact frozen (leads.tail first) point after

noncomputable def narrowing : Problem (Gaussian ℝ) ℝ Float Alternating Nat where
  strategies := { Gaussian.strategies with
    scorer := some fun _ calls => (.ok (if calls = 0 then 1.5 else 2.5), calls + 1) }
  session :=
    { state :=
        { State.initial ⟨.scalar 0, .scalar 1⟩ with settings := { numSamples := 2, numElite := 1, maxIters := some 1 } }
      rng := ⟨true⟩
      memory := 0
      bestSample := none }

theorem selects_of_narrowing :
    ∃ batch scores elite chosen u journal x,
      Selects narrowing.strategies narrowing.fresh batch scores elite chosen u journal ∧ chosen.rows = [x] := by
  let s := narrowing.fresh.withScores none none
  have standard : narrowing.strategies.Standard ℝ generator estimator := ⟨rfl, rfl, .inl rfl⟩
  have scalar : s.state.params.Shaped [] := ⟨rfl, rfl⟩
  obtain ⟨batch, t, drawn⟩ := (closed_shapes []).exists_draws standard scalar
  have memory : t.memory = 0 := ((closed_shapes []).drawn standard scalar drawn).2.2
  have two : batch.rows.length = 2 := batch.length_rows.trans drawn.sized
  obtain ⟨x, y, rows⟩ := List.length_eq_two.1 two
  have all : Scores (fun _ calls => (.ok (if calls = 0 then 1.5 else 2.5), calls + 1)) t.memory batch.rows
      [(1.5 : Float), 2.5] 2 := by
    rw [memory, rows]
    exact .cons rfl (by decide +kernel) (.cons rfl (by decide +kernel) .nil)
  have selected : Elite.select? [(1.5 : Float), 2.5] 1 = some ⟨1.5, 1.5, Elite.admitted [1.5, 2.5] 1.5⟩ :=
    Elite.select?_of_pairwise (by decide +kernel) rfl rfl
  obtain ⟨chosen, picked, within, -⟩ :=
    Elite.selectRows?_admitted (1.5 : Float) (all.length_eq.trans batch.length_rows)
  refine ⟨batch, _, _, chosen, _, _, x, .intro drawn rfl all selected picked, ?_⟩
  have low : (1.5 : Float) ≤ 1.5 := by decide +kernel
  have high : ¬(2.5 : Float) ≤ 1.5 := by decide +kernel
  rw [within, rows]
  simp [Elite.within, low, high]

theorem permanent_of_collapse :
    let p : Problem (Gaussian ℝ) ℝ Float Alternating Unit :=
      indifferent { Gaussian.strategies with updater := some Categorical.half.updater } ⟨.scalar 1, .scalar 0⟩ ⟨true⟩
    p.params.Collapsed ∧
      (∃ event t journal, iterate p.strategies p.fresh = (.ok event, t, journal) ∧ t.state.params = p.params ∧
        event.minScore = event.eliteScore ∧ event.eliteCount = 3) ∧
      (∃ out, p.solve 4 = some out ∧ out.session.state.params = p.params) ∧
      ∃ x out, narrowing.solve 1 = some out ∧ out.session.state.params = pointMass x := by
  intro p
  have collapsed : p.params.Collapsed := ⟨rfl, fun x member => List.mem_singleton.1 member⟩
  have standard : p.strategies.Standard ℝ generator estimator := ⟨rfl, rfl, .inr ⟨Categorical.half, rfl⟩⟩
  have permanent {m : Moment (Gaussian ℝ) ℝ Float Alternating Unit}
      (later : Moment.Leads (Strategies.Standard ℝ generator estimator) ⟨p, .idle⟩ m) : Frozen p.params m :=
    (collapse_is_permanent standard).1 .refl collapsed later
  have reliable : Scorer.Reliable (fun _ memory => (.ok 1.5, memory)) (fun _ : Unit => True) (·.shape = []) :=
    fun (_ : Tensor ℝ) memory _ _ => ⟨1.5, memory, rfl, by decide +kernel, trivial⟩
  obtain ⟨result, t, journal, course⟩ := exists_course p.strategies (s := p.fresh) (by decide)
  have scalar : p.fresh.state.params.Shaped [] := ⟨rfl, rfl⟩
  obtain ⟨⟨event, rfl⟩, -⟩ := (closed_shapes []).course_reliable standard rfl reliable scalar trivial course
  have made := iterate_of_course course
  have starts : Moment.Leads (Strategies.Standard ℝ generator estimator) ⟨p, .idle⟩
      ⟨{ p with session := p.fresh }, .running .silent ()⟩ := .single (.starts (by decide))
  have frozen := permanent starts
  have ties := frozen.ties (by simp) (f := fun _ => .ok 1.5) rfl (fun _ _ => rfl) made
  obtain ⟨out, ends⟩ := Problem.exists_outcome (p := p) (m := 4) rfl rfl .silent ()
  have solved : p.solve 4 = some out := ends 4 (by decide)
  refine ⟨collapsed, ⟨event, t, journal, made, frozen.keeps (by simp) made, ties⟩,
    ⟨out, solved, (permanent (Moment.leads_of_solveUnder solved)).params⟩, ?_⟩
  obtain ⟨batch, scores, elite, chosen, u, journal, x, selects, single⟩ := selects_of_narrowing
  have starts : Moment.Leads (Strategies.Standard ℝ generator estimator) ⟨narrowing, .idle⟩
      ⟨{ narrowing with session := narrowing.fresh }, .running .silent ()⟩ := .single (.starts (by decide))
  obtain ⟨out, ends⟩ := Problem.exists_outcome (p := narrowing) (m := 1) rfl rfl .silent ()
  have solved : narrowing.solveUnder .silent () 1 = some out := ends 1 (by decide)
  refine ⟨x, out, solved, ?_⟩
  rw [Problem.solveUnder_of_valid (by decide)] at solved
  obtain ⟨n, s, nobody, journal', last, lt, proceeds, ended, -⟩ := runWithin_eq_some_iff.1 solved
  obtain rfl : n = 0 := Nat.lt_one_iff.1 lt
  cases proceeds
  have next : Moment.Next (Strategies.Standard ℝ generator estimator)
      ⟨{ narrowing with session := narrowing.fresh }, .running .silent ()⟩
      ⟨{ narrowing with session := out.session }, .idle⟩ := .ends ended
  exact ((collapse_is_permanent (p := narrowing) ⟨rfl, rfl, .inl rfl⟩).2 starts rfl selects single next .refl).params

end Gaussian
end CrossEntropy
