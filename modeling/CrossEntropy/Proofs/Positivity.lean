import CrossEntropy.Proofs.Stochastic

/-!
Signs of the parameters in exact arithmetic. A variance that is positive and less than `m * (1 - m)` leaves room only
for a mean `m` between zero and one, so matching moments gives positive shapes whatever the samples are, and weights
between zero and one mix positive numbers to positive ones. So Beta shapes stay positive for life, and standard
deviations stay non-negative, under any generator and any scores (`signs_of_leads`).
-/

namespace CrossEntropy
variable {P α R S G σ : Type}

namespace Tensor
variable {a b m : Tensor α} {x : α}

theorem get_mem_toList (a : Tensor α) (i : List Nat) (h : a.shape.InBounds i) : a.get i h ∈ a.toList :=
  Array.getElem_mem_toList _

theorem exists_of_mem_ofFn {shape : Shape} {f : (i : List Nat) → shape.InBounds i → α}
    (member : x ∈ (ofFn shape f).toList) : ∃ i h, x = f i h := by
  obtain ⟨i, found⟩ := exists_of_mem_toList member
  obtain ⟨inside, rfl⟩ := getElem?_eq_some_iff.1 found
  exact ⟨i, inside, get_ofFn inside⟩

theorem exists_of_mem_zipWith? {f : α → α → α} (combined : zipWith? f a b = some m) (member : x ∈ m.toList) :
    ∃ y ∈ a.toList, ∃ z ∈ b.toList, x = f y z := by
  rw [zipWith?, combine?] at combined
  split at combined
  · cases combined
  · obtain rfl := Option.some.inj combined
    obtain ⟨i, _, rfl⟩ := exists_of_mem_ofFn member
    exact ⟨_, get_mem_toList (a.padRank b.rank) .., _, get_mem_toList (b.padRank a.rank) .., rfl⟩

theorem toList_map (f : α → α) (a : Tensor α) : (a.map f).toList = a.toList.map f := Array.toList_map

theorem exists_of_mem_mix? {w x : ℝ} {a b m : Tensor ℝ} (mixed : mix? w a b = some m) (member : x ∈ m.toList) :
    ∃ y ∈ a.toList, ∃ z ∈ b.toList, x = w * y + (1 - w) * z := by
  obtain ⟨_, left, _, right, rfl⟩ := exists_of_mem_zipWith? mixed member
  rw [toList_map] at left right
  obtain ⟨y, hy, rfl⟩ := List.mem_map.1 left
  obtain ⟨z, hz, rfl⟩ := List.mem_map.1 right
  exact ⟨y, hy, z, hz, rfl⟩

theorem mix?_pos {smoothing : Smoothing ℝ} {a b m : Tensor ℝ} (mixed : mix? smoothing.weight a b = some m)
    (ha : ∀ x ∈ a.toList, 0 < x) (hb : ∀ x ∈ b.toList, 0 < x) : ∀ x ∈ m.toList, 0 < x := by
  intro x member
  obtain ⟨y, hy, z, hz, rfl⟩ := exists_of_mem_mix? mixed member
  have rest : 0 ≤ 1 - smoothing.weight := sub_nonneg.2 smoothing.le_one
  have estimated := ha y hy
  have current := hb z hz
  -- Without a weight the estimate does not count; with one its part is positive.
  rcases smoothing.nonneg.eq_or_lt with none | some
  · simpa [← none] using current
  · have := mul_pos some estimated
    have := mul_nonneg rest current.le
    linarith

theorem mix?_nonneg {smoothing : Smoothing ℝ} {a b m : Tensor ℝ} (mixed : mix? smoothing.weight a b = some m)
    (ha : ∀ x ∈ a.toList, 0 ≤ x) (hb : ∀ x ∈ b.toList, 0 ≤ x) : ∀ x ∈ m.toList, 0 ≤ x := by
  intro x member
  obtain ⟨y, hy, z, hz, rfl⟩ := exists_of_mem_mix? mixed member
  have rest : 0 ≤ 1 - smoothing.weight := sub_nonneg.2 smoothing.le_one
  exact add_nonneg (mul_nonneg smoothing.nonneg (ha y hy)) (mul_nonneg rest (hb z hz))

end Tensor

section Fitting
variable [Scalar R] [Mix R P]

/-- The estimator of a family, without an updater or with one that smooths; the others are free. -/
structure Strategies.Fits (R : Type) [Scalar R] [Mix R P] (estimator : Estimator P α S σ)
    (strategies : Strategies P α S G σ) : Prop where
  estimator : strategies.estimator = some estimator
  updater : strategies.updater = none ∨ ∃ smoothing : Smoothing R, strategies.updater = some smoothing.updater

inductive Refit (R : Type) [Scalar R] [Mix R P] (estimator : Estimator P α S σ) (current : P) : P → Prop
  | estimate {elite shown memory estimated memory'} (params : shown.params = current)
      (returned : estimator elite shown memory = (.ok estimated, memory')) : Refit R estimator current estimated
  | mixture {elite shown memory estimated memory' mixed} (smoothing : Smoothing R) (params : shown.params = current)
      (returned : estimator elite shown memory = (.ok estimated, memory'))
      (mixes : mix? smoothing.weight estimated current = some mixed) : Refit R estimator current mixed

open Iteration

variable [Score S] {strategies : Strategies P α S G σ} {estimator : Estimator P α S σ} {kind : P → Prop}
  {s t : Session P α S G σ} {journal : Journal P α S}

theorem Iteration.Course.refit {event : Event P S} (course : Course strategies s (.ok event) t journal)
    (fits : strategies.Fits R estimator) : Refit R estimator s.state.params t.state.params := by
  cases course with
  | @completed _ _ _ _ drew _ _ _ _ _ _ selects estimates updates =>
      have shown : drew.state.params = s.state.params := by rw [selects.state]
      cases estimates with
      | intro installed returned =>
          obtain rfl := Option.some.inj (fits.estimator.symm.trans installed)
          cases updates with
          | keep => exact .estimate shown returned
          | apply installed' returned' =>
              rcases fits.updater with absent | ⟨smoothing, smooths⟩
              · rw [absent] at installed'
                cases installed'
              · obtain rfl := Option.some.inj (smooths.symm.trans installed')
                exact .mixture smoothing shown returned (shown ▸ smoothing.mix_of_updater returned')

theorem keeps_of_fits
    (inherits : ∀ {elite : Tensor α} {s : State P S} {memory : σ} {estimated : P} {memory' : σ},
      kind s.params → estimator elite s memory = (.ok estimated, memory') → kind estimated)
    (mixes : ∀ (smoothing : Smoothing R) {estimated current params : P}, kind estimated → kind current →
      mix? smoothing.weight estimated current = some params → kind params) :
    Moment.Keeps (Strategies.Fits (G := G) R estimator) kind := by
  intro strategies s result t journal fits good course
  cases result with
  | error e => exact course.params_of_error.symm ▸ good
  | ok event =>
      have refit := course.refit fits
      generalize t.state.params = params at refit ⊢
      cases refit with
      | estimate shown returned => exact inherits (shown.symm ▸ good) returned
      | mixture smoothing shown returned mixed =>
          exact mixes smoothing (inherits (shown.symm ▸ good) returned) good mixed

end Fitting

namespace Beta
variable {p current estimated : Beta ℝ} {elite : Tensor ℝ} {m v : ℝ} {pair : ℝ × ℝ}

structure Positive (p : Beta ℝ) : Prop where
  alpha : ∀ x ∈ p.alpha.toList, 0 < x
  beta : ∀ x ∈ p.beta.toList, 0 < x

theorem pos_of_room (spread : 0 < v) (room : v < m * (1 - m)) : 0 < m ∧ 0 < 1 - m ∧ 0 < m * (1 - m) / v - 1 := by
  have mean : 0 < m ∧ 0 < 1 - m := by
    rcases mul_pos_iff.1 (spread.trans room) with both | ⟨low, high⟩
    · exact both
    · linarith
  exact ⟨mean.1, mean.2, sub_pos.2 ((one_lt_div spread).2 room)⟩

theorem matchMoments_pos (alpha : 0 < pair.1) (beta : 0 < pair.2) :
    0 < (matchMoments m v pair).1 ∧ 0 < (matchMoments m v pair).2 := by
  rw [matchMoments]
  split
  · rename_i inside
    obtain ⟨mean, rest, ratio⟩ := pos_of_room inside.1 inside.2
    exact ⟨mul_pos mean ratio, mul_pos rest ratio⟩
  · exact ⟨alpha, beta⟩

theorem Positive.fit (positive : current.Positive) (fits : fit elite current = .ok estimated) :
    estimated.Positive := by
  obtain ⟨same, rfl | rfl⟩ := cases_of_fit fits
  · exact positive
  · have alpha {i : List Nat} (h : current.alpha.shape.InBounds i) : 0 < current.alpha.get i h :=
      positive.alpha _ (Tensor.get_mem_toList ..)
    have beta {i : List Nat} (h : current.beta.shape.InBounds i) : 0 < current.beta.get i h :=
      positive.beta _ (Tensor.get_mem_toList ..)
    constructor
    · intro x member
      obtain ⟨i, h, rfl⟩ := Tensor.exists_of_mem_ofFn member
      exact (matchMoments_pos (alpha h) (beta (same ▸ h))).1
    · intro x member
      obtain ⟨i, h, rfl⟩ := Tensor.exists_of_mem_ofFn member
      exact (matchMoments_pos (alpha h) (beta (same ▸ h))).2

theorem Positive.mix {smoothing : Smoothing ℝ} {params : Beta ℝ} (fitted : estimated.Positive)
    (good : current.Positive) (mixed : mix? smoothing.weight estimated current = some params) : params.Positive := by
  obtain ⟨alpha, beta⟩ := parts_of_mix? mixed
  exact ⟨Tensor.mix?_pos alpha fitted.alpha good.alpha, Tensor.mix?_pos beta fitted.beta good.beta⟩

theorem level_of_fit (fits : fit elite current = .ok estimated) :
    current.alpha.shape = current.beta.shape ∧ estimated.alpha.shape = current.alpha.shape ∧
      estimated.beta.shape = current.beta.shape := by
  obtain ⟨same, rfl | rfl⟩ := cases_of_fit fits
  · exact ⟨same, rfl, rfl⟩
  · exact ⟨same, rfl, same⟩

theorem level_of_refit {S σ : Type} {params : Beta ℝ}
    (refit : Refit ℝ (estimator (S := S) (σ := σ)) current params) : params.alpha.shape = params.beta.shape := by
  cases refit with
  | estimate shown returned =>
      obtain ⟨level, alpha, beta⟩ := level_of_fit (eq_ok_of_mapError (Prod.mk.inj returned).1)
      exact alpha.trans (level.trans beta.symm)
  | mixture smoothing shown returned mixed =>
      obtain ⟨level, alpha, beta⟩ := level_of_fit (eq_ok_of_mapError (Prod.mk.inj returned).1)
      rw [shown] at level alpha beta
      obtain ⟨alphas, betas⟩ := parts_of_mix? mixed
      exact (Tensor.entries_of_mix? alphas alpha).1.trans (level.trans (Tensor.entries_of_mix? betas beta).1.symm)

theorem Positive.means (positive : p.Positive) (level : p.alpha.shape = p.beta.shape) :
    ∃ means, p.means? = some means ∧ means.shape = p.alpha.shape ∧ ∀ x ∈ means.toList, 0 < x ∧ x < 1 := by
  have sums := Tensor.zipWith?_of_shape_eq (· + ·) level
  have means := Tensor.zipWith?_of_shape_eq (α := ℝ) (β := ℝ) (· / ·) (a := p.alpha)
    (b := .ofFn p.alpha.shape fun i hi => p.alpha.get i hi + p.beta.get i (level ▸ hi)) rfl
  refine ⟨_, (congrArg (Option.bind · _) sums).trans means, rfl, fun x member => ?_⟩
  obtain ⟨i, h, rfl⟩ := Tensor.exists_of_mem_ofFn member
  have alpha := positive.alpha _ (Tensor.get_mem_toList _ i h)
  have beta := positive.beta _ (Tensor.get_mem_toList _ i (level ▸ h))
  rw [Tensor.get_ofFn h]
  exact ⟨div_pos alpha (add_pos alpha beta), (div_lt_one (add_pos alpha beta)).2 (lt_add_of_pos_right _ beta)⟩

theorem keeps_positive {S G σ : Type} [Score S] :
    Moment.Keeps (Strategies.Fits (S := S) (G := G) (σ := σ) ℝ estimator) Positive :=
  keeps_of_fits (fun good returned => good.fit (eq_ok_of_mapError (Prod.mk.inj returned).1))
    fun _ _ _ _ fitted good mixed => fitted.mix good mixed

end Beta

namespace Gaussian
variable {current estimated params : Gaussian ℝ} {elite : Tensor ℝ}

def Spread (p : Gaussian ℝ) : Prop := ∀ x ∈ p.stddev.toList, 0 ≤ x

theorem spread_of_fit? (fits : fit? elite = some estimated) : estimated.Spread := by
  obtain ⟨⟨means, variances⟩, -, rfl⟩ := Option.map_eq_some_iff.1 fits
  intro x member
  rw [Tensor.toList_map] at member
  obtain ⟨variance, -, rfl⟩ := List.mem_map.1 member
  exact Real.sqrt_nonneg variance

theorem Spread.mix {smoothing : Smoothing ℝ} (fitted : estimated.Spread) (good : current.Spread)
    (mixed : mix? smoothing.weight estimated current = some params) : params.Spread :=
  Tensor.mix?_nonneg (parts_of_mix? mixed).2 fitted good

theorem keeps_spread {S G σ : Type} [Score S] :
    Moment.Keeps (Strategies.Fits (S := S) (G := G) (σ := σ) ℝ estimator) Spread := by
  refine keeps_of_fits ?_ fun _ _ _ _ fitted good mixed => fitted.mix good mixed
  intro elite s memory estimated memory' good returned
  obtain rfl := Except.ok.inj (Prod.mk.inj returned).1
  cases fits : fit? elite with
  | none => exact good
  | some fitted => exact spread_of_fit? fits

end Gaussian

theorem signs_of_leads [Score S] :
    (∀ {p : Problem (Beta ℝ) ℝ S G σ}, p.strategies.Fits ℝ Beta.estimator → p.params.Positive →
      (∀ {m : Moment (Beta ℝ) ℝ S G σ}, Moment.Leads (Strategies.Fits ℝ Beta.estimator) ⟨p, .idle⟩ m →
        m.problem.params.Positive) ∧
      ∀ {q : Problem (Beta ℝ) ℝ S G σ} {ω : Type} {observer : Observer (Beta ℝ) S ω} {watcher : ω}
        {event : Event (Beta ℝ) S} {t : Session (Beta ℝ) ℝ S G σ} {journal : Journal (Beta ℝ) ℝ S},
        Moment.Leads (Strategies.Fits ℝ Beta.estimator) ⟨p, .idle⟩ ⟨q, .running observer watcher⟩ →
        iterate q.strategies q.session = (.ok event, t, journal) →
        event.params = t.state.params ∧ t.state.params.Positive ∧
          ∃ means, t.state.params.means? = some means ∧ means.shape = t.state.params.alpha.shape ∧
            ∀ x ∈ means.toList, 0 < x ∧ x < 1) ∧
    ∀ {p : Problem (Gaussian ℝ) ℝ S G σ}, p.strategies.Fits ℝ Gaussian.estimator → p.params.Spread →
      (∀ {m : Moment (Gaussian ℝ) ℝ S G σ}, Moment.Leads (Strategies.Fits ℝ Gaussian.estimator) ⟨p, .idle⟩ m →
        m.problem.params.Spread) ∧
      ∀ {q : Problem (Gaussian ℝ) ℝ S G σ} {ω : Type} {observer : Observer (Gaussian ℝ) S ω} {watcher : ω}
        {event : Event (Gaussian ℝ) S} {t : Session (Gaussian ℝ) ℝ S G σ} {journal : Journal (Gaussian ℝ) ℝ S},
        Moment.Leads (Strategies.Fits ℝ Gaussian.estimator) ⟨p, .idle⟩ ⟨q, .running observer watcher⟩ →
        iterate q.strategies q.session = (.ok event, t, journal) →
        event.params = t.state.params ∧ t.state.params.Spread := by
  constructor
  · intro p fits positive
    have sound {m : Moment (Beta ℝ) ℝ S G σ} (leads : Moment.Leads _ ⟨p, .idle⟩ m) :=
      (Moment.Sound.idle fits positive).leads Beta.keeps_positive leads
    refine ⟨fun leads => (sound leads).params, fun leads made => ?_⟩
    have here := sound leads
    have course := (Iteration.iterate_eq_iff (here.valid (by simp))).1 made
    have kept := Beta.keeps_positive here.strategies here.params course
    exact ⟨course.event_params, kept, kept.means (Beta.level_of_refit (course.refit here.strategies))⟩
  · intro p fits spread
    have sound {m : Moment (Gaussian ℝ) ℝ S G σ} (leads : Moment.Leads _ ⟨p, .idle⟩ m) :=
      (Moment.Sound.idle fits spread).leads Gaussian.keeps_spread leads
    refine ⟨fun leads => (sound leads).params, fun leads made => ?_⟩
    have here := sound leads
    have course := (Iteration.iterate_eq_iff (here.valid (by simp))).1 made
    exact ⟨course.event_params, Gaussian.keeps_spread here.strategies here.params course⟩

noncomputable def nearby : Tensor ℝ := ⟨[2, 1], #[0.25, 0.75], rfl⟩

/-- A problem whose samples leave the unit interval after the first iteration. -/
noncomputable def adrift [Mix ℝ P] (estimator : Estimator P ℝ Float Unit) (params : P) :
    Problem P ℝ Float Unit Unit where
  strategies :=
    { generator := some (.fixed [nearby, ⟨[2, 1], #[-7, 9], rfl⟩])
      scorer := some fun _ memory => (.ok 1.5, memory)
      estimator := some estimator
      updater := some Categorical.half.updater }
  session :=
    { state := { State.initial params with settings := { numSamples := 2, numElite := 2, maxIters := some 3 } }
      rng := ()
      memory := ()
      bestSample := none }

theorem iterate_adrift [Mix ℝ P] {estimator : Estimator P ℝ Float Unit} {params estimated mixed : P}
    (returned : ∀ s : State P Float, s.params = params → estimator nearby s () = (.ok estimated, ()))
    (mixes : mix? (1 / 2 : ℝ) estimated params = some mixed) :
    ∃ event t journal,
      iterate (adrift estimator params).strategies (adrift estimator params).fresh = (.ok event, t, journal) ∧
        t.state.params = mixed := by
  let p := adrift estimator params
  have number : (1.5 : Float).isNaN = false := by decide +kernel
  have drawn : Iteration.Draws p.strategies (p.fresh.withScores none none) nearby (p.fresh.withScores none none) :=
    .intro rfl rfl rfl
  have all : Scores (fun _ memory => (.ok (1.5 : Float), memory)) () nearby.rows [1.5, 1.5] () :=
    .cons rfl number (.cons rfl number .nil)
  have both : Elite.admitted [(1.5 : Float), 1.5] 1.5 = [0, 1] := by decide +kernel
  have selected : Elite.select? [(1.5 : Float), 1.5] 2 = some ⟨1.5, 1.5, [0, 1]⟩ :=
    both ▸ Elite.select?_of_pairwise (by decide +kernel) rfl rfl
  have picked : nearby.selectRows? [0, 1] = some nearby := rfl
  have selects := Iteration.Selects.intro drawn rfl all selected picked
  have updated (s : State P Float) (same : s.params = params) :
      Categorical.half.updater estimated s () = (.ok mixed, ()) := by
    simp only [Smoothing.updater, Updater.mix, same]
    rw [show Categorical.half.weight = 1 / 2 from rfl, mixes]
  have course := Iteration.Course.completed selects (.intro rfl (returned _ rfl)) (.apply rfl (updated _ rfl))
  exact ⟨_, _, _, Iteration.iterate_of_course course, rfl⟩

theorem fit_nearby : ∃ fitted, Beta.fit nearby ⟨.vector [2], .vector [1]⟩ = .ok fitted ∧ fitted.Shaped 1 ∧
    fitted.alpha[[0]]? = some (1 / 2) ∧ fitted.beta[[0]]? = some (1 / 2) := by
  have lane : nearby.lane 0 [0] = [0.25, 0.75] := rfl
  have mean : mean (nearby.lane 0 [0]) = 1 / 2 := by
    rw [lane, CrossEntropy.mean]
    norm_num
  have variance : variance (nearby.lane 0 [0]) = 1 / 8 := by
    rw [lane, CrossEntropy.variance]
    norm_num [Deviations.add, Deviations.start]
  have matched : Beta.matchMoments (1 / 2) (1 / 8) ((2, 1) : ℝ × ℝ) = (1 / 2, 1 / 2) := by
    rw [Beta.matchMoments]
    norm_num
  have pair : Beta.Shaped (R := ℝ) 1 ⟨.vector [2], .vector [1]⟩ := ⟨rfl, rfl⟩
  obtain ⟨fitted, fits, level, entries⟩ := Beta.entries_of_fit pair (show nearby.shape = [1 + 1, 1] from rfl)
  obtain ⟨alpha, beta⟩ := @entries 0 2 1 rfl rfl
  rw [mean, variance, matched] at alpha beta
  exact ⟨fitted, fits, level, alpha, beta⟩

theorem iterate_adrift_beta :
    let p := adrift Beta.estimator ⟨.vector [2], .vector [1]⟩
    ∃ event t journal, iterate p.strategies p.fresh = (.ok event, t, journal) ∧
      t.state.params.alpha[[0]]? = some (5 / 4) ∧ t.state.params.beta[[0]]? = some (3 / 4) := by
  obtain ⟨fitted, fits, level, half, half'⟩ := fit_nearby
  obtain ⟨alpha, alphas, -, first⟩ := Tensor.mix?_of_shape_eq (1 / 2 : ℝ) (b := .vector [2]) level.alpha
  obtain ⟨beta, betas, -, second⟩ := Tensor.mix?_of_shape_eq (1 / 2 : ℝ) (b := .vector [1]) level.beta
  have returned (s : State (Beta ℝ) Float) (same : s.params = ⟨.vector [2], .vector [1]⟩) :
      Beta.estimator nearby s () = (.ok fitted, ()) := by
    simp only [Beta.estimator, same, fits]
    rfl
  obtain ⟨event, t, journal, made, params⟩ := iterate_adrift returned (Beta.mix?_of_parts alphas betas)
  refine ⟨event, t, journal, made, ?_, ?_⟩
  · have two : (Tensor.vector [(2 : ℝ)])[[0]]? = some 2 := rfl
    rw [params, first half two]
    norm_num
  · have one : (Tensor.vector [(1 : ℝ)])[[0]]? = some 1 := rfl
    rw [params, second half' one]
    norm_num

theorem iterate_adrift_gaussian :
    let q := adrift Gaussian.estimator ⟨.vector [2], .vector [1]⟩
    ∃ event t journal, iterate q.strategies q.fresh = (.ok event, t, journal) := by
  obtain ⟨fitted, fits, level, -⟩ := Gaussian.entries_of_fit? (show nearby.shape = [1 + 1, 1] from rfl)
  obtain ⟨mean, means, -⟩ := Tensor.mix?_of_shape_eq (1 / 2 : ℝ) (b := .vector [2]) level.mean
  obtain ⟨stddev, stddevs, -⟩ := Tensor.mix?_of_shape_eq (1 / 2 : ℝ) (b := .vector [1]) level.stddev
  have returned (s : State (Gaussian ℝ) Float) (_ : s.params = ⟨.vector [2], .vector [1]⟩) :
      Gaussian.estimator nearby s () = (.ok fitted, ()) := by
    simp only [Gaussian.estimator, fits]
    rfl
  obtain ⟨event, t, journal, made, -⟩ := iterate_adrift returned (Gaussian.mix?_of_parts means stddevs)
  exact ⟨event, t, journal, made⟩

theorem signs_of_adrift :
    let p := adrift Beta.estimator ⟨.vector [2], .vector [1]⟩
    let q := adrift Gaussian.estimator ⟨.vector [2], .vector [1]⟩
    p.params.Positive ∧ q.params.Spread ∧
      (∃ event t journal, iterate p.strategies p.fresh = (.ok event, t, journal) ∧ t.state.params.Positive ∧
        t.state.params.alpha[[0]]? = some (5 / 4) ∧ t.state.params.beta[[0]]? = some (3 / 4) ∧
        ∃ means, t.state.params.means? = some means ∧ ∀ x ∈ means.toList, 0 < x ∧ x < 1) ∧
      (∃ out, p.solve 3 = some out ∧ out.session.state.params.Positive) ∧
      (∃ event t journal, iterate q.strategies q.fresh = (.ok event, t, journal) ∧ t.state.params.Spread) ∧
      ∃ out, q.solve 3 = some out ∧ out.session.state.params.Spread := by
  intro p q
  have positive : p.params.Positive := by
    constructor
    · intro x member
      obtain rfl : x = 2 := List.mem_singleton.1 member
      norm_num
    · intro x member
      obtain rfl : x = 1 := List.mem_singleton.1 member
      exact one_pos
  have spread : q.params.Spread := by
    intro x member
    obtain rfl : x = 1 := List.mem_singleton.1 member
    exact zero_le_one
  have beta := signs_of_leads.1 (p := p) ⟨rfl, .inr ⟨Categorical.half, rfl⟩⟩ positive
  have gaussian := signs_of_leads.2 (p := q) ⟨rfl, .inr ⟨Categorical.half, rfl⟩⟩ spread
  obtain ⟨event, t, journal, made, alpha, beta'⟩ := iterate_adrift_beta
  obtain ⟨event', t', journal', made'⟩ := iterate_adrift_gaussian
  obtain ⟨out, ends⟩ := Problem.exists_outcome (p := p) (m := 3) rfl rfl .silent ()
  obtain ⟨out', ends'⟩ := Problem.exists_outcome (p := q) (m := 3) rfl rfl .silent ()
  have solved : p.solve 3 = some out := ends 3 (by decide)
  have solved' : q.solve 3 = some out' := ends' 3 (by decide)
  have starts : Moment.Leads (Strategies.Fits ℝ Beta.estimator) ⟨p, .idle⟩
      ⟨{ p with session := p.fresh }, .running .silent ()⟩ := .single (.starts (by decide))
  have starts' : Moment.Leads (Strategies.Fits ℝ Gaussian.estimator) ⟨q, .idle⟩
      ⟨{ q with session := q.fresh }, .running .silent ()⟩ := .single (.starts (by decide))
  obtain ⟨-, kept, means, found, -, inside⟩ := beta.2 starts made
  have kept' := (gaussian.2 starts' made').2
  exact ⟨positive, spread, ⟨event, t, journal, made, kept, alpha, beta', means, found, inside⟩,
    ⟨out, solved, beta.1 (Moment.leads_of_solveUnder solved)⟩, ⟨event', t', journal', made', kept'⟩,
    out', solved', gaussian.1 (Moment.leads_of_solveUnder solved')⟩

end CrossEntropy
