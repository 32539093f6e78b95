import CrossEntropy.Family.Strategies
import CrossEntropy.Proofs.CategoricalDraws
import CrossEntropy.Proofs.ClosedFamilies
import CrossEntropy.Proofs.Frequencies

namespace CrossEntropy
variable {R G σ : Type}

theorem eq_ok_of_mapError {ε ε' α : Type} {f : ε → ε'} {result : Except ε α} {x : α}
    (h : result.mapError f = .ok x) : result = .ok x := by
  cases result with
  | error => cases h
  | ok => exact congrArg Except.ok (Except.ok.inj h)

theorem exists_draw_of_mem_drawMany {α : Type} {draw : G → α × G} {n : Nat} {g : G} {x : α}
    (h : x ∈ (drawMany draw n g).1) : ∃ g', x = (draw g').1 := by
  induction n generalizing g with
  | zero => cases h
  | succ n ih =>
      rcases List.mem_cons.1 h with rfl | later
      · exact ⟨g, rfl⟩
      · exact ih later

namespace Tensor

theorem getElem?_eq_some_iff {α : Type} {a : Tensor α} {i : List Nat} {x : α} :
    a[i]? = some x ↔ ∃ h : a.shape.InBounds i, a.get i h = x := by
  rw [getElem?_eq]
  by_cases h : a.shape.InBounds i <;> simp [h]

theorem exists_of_mem_toList {α : Type} {a : Tensor α} {x : α} (member : x ∈ a.toList) :
    ∃ i : List Nat, a[i]? = some x := by
  obtain ⟨k, lt, rfl⟩ := Array.mem_iff_getElem.1 (Array.mem_toList_iff.1 member)
  have bound : a.shape.InBounds (a.shape.subscript k) := Shape.inBounds_subscript (a.size_eq ▸ lt)
  exact ⟨_, getElem?_eq_some_iff.2 ⟨bound, (a.data_getElem k lt).symm⟩⟩

theorem getElem?_toList_of_mem_rows {α : Type} {a row : Tensor α} {count columns j : Nat} {x : α}
    (shape : a.shape = [count, columns]) (member : row ∈ a.rows) (found : row.toList[j]? = some x) :
    ∃ i < count, j < columns ∧ a[[i, j]]? = some x := by
  obtain ⟨i, here⟩ := List.mem_iff_getElem?.1 member
  rw [getElem?_toList_of_row shape here] at found
  obtain ⟨inside, -⟩ := getElem?_eq_some_iff.1 found
  rw [shape] at inside
  exact ⟨i, inside.1, inside.2.1, found⟩

theorem exists_moments? [Scalar R] {a : Tensor R} {n : Nat} {shape : Shape} (shaped : a.shape = (n + 1) :: shape) :
    ∃ means variances, a.moments? = some (means, variances) ∧ means.shape = shape ∧ variances.shape = shape ∧
      ∀ {i : List Nat}, shape.InBounds i →
        means[i]? = some (mean (a.lane 0 i)) ∧ variances[i]? = some (variance (a.lane 0 i)) := by
  have some : a.extent 0 ≠ 0 := extent_zero shaped ▸ Nat.succ_ne_zero n
  have reduced : a.shape.eraseIdx 0 = shape := by rw [shaped]; rfl
  rw [moments?, if_neg some]
  refine ⟨_, _, rfl, reduced, reduced, fun {i} inside => ?_⟩
  subst reduced
  exact ⟨getElem?_ofFn inside, getElem?_ofFn inside⟩

theorem mix?_of_shape_eq [Scalar R] (w : R) {a b : Tensor R} (same : a.shape = b.shape) :
    ∃ m, mix? w a b = some m ∧ m.shape = b.shape ∧
      ∀ {i : List Nat} {x y : R}, a[i]? = some x → b[i]? = some y → m[i]? = some (w * x + (1 - w) * y) := by
  have mixed := zipWith?_of_shape_eq (· + ·) (a := a.map (w * ·)) (b := b.map ((1 - w) * ·)) same
  refine ⟨_, mixed, same, fun {i x y} hx hy => ?_⟩
  obtain ⟨ha, rfl⟩ := getElem?_eq_some_iff.1 hx
  obtain ⟨hb, rfl⟩ := getElem?_eq_some_iff.1 hy
  refine (getElem?_ofFn ha).trans (congrArg some ?_)
  exact congrArg₂ (· + ·) (get_map _ a i ha) (get_map _ b i hb)

theorem entries_of_mix? [Scalar R] {w : R} {a b m : Tensor R} (mixed : mix? w a b = some m) (same : a.shape = b.shape) :
    m.shape = b.shape ∧
      ∀ {i : List Nat} {x y : R}, a[i]? = some x → b[i]? = some y → m[i]? = some (w * x + (1 - w) * y) := by
  obtain ⟨m', mixed', entries⟩ := mix?_of_shape_eq w same
  obtain rfl := Option.some.inj (mixed.symm.trans mixed')
  exact entries

end Tensor

variable [Scalar R] [Variates R G]

namespace Gaussian
variable {p : Gaussian R} {shape : Shape}

omit [Scalar R] in
structure Shaped (shape : Shape) (p : Gaussian R) : Prop where
  mean : p.mean.shape = shape
  stddev : p.stddev.shape = shape

theorem entries_of_sample (shaped : p.Shaped shape) (count : Nat) (g : G) :
    ∃ batch, p.sample count g = (.ok batch, (Tensor.fill (count :: shape) (Variates.normal (R := R)) g).2) ∧
      batch.shape = count :: shape ∧
      ∀ {k : Nat} {i : List Nat} {mean stddev : R}, k < count → p.mean[i]? = some mean → p.stddev[i]? = some stddev →
        batch[k :: i]? =
          some ((Tensor.fill (count :: shape) (Variates.normal (R := R)) g).1[k :: i]?.getD 0 * stddev + mean) := by
  obtain ⟨rfl, same⟩ := shaped
  rw [sample, dif_pos same.symm]
  refine ⟨_, rfl, rfl, fun {k i mean stddev} hk hm hs => ?_⟩
  obtain ⟨inside, rfl⟩ := Tensor.getElem?_eq_some_iff.1 hm
  obtain ⟨_, rfl⟩ := Tensor.getElem?_eq_some_iff.1 hs
  exact Tensor.getElem?_ofFn (show Shape.InBounds (count :: p.mean.shape) (k :: i) from ⟨hk, inside⟩)

omit [Variates R G] in
theorem fit?_of_empty {elite : Tensor R} (none : elite.extent 0 = 0) : fit? elite = .none := by
  rw [fit?, Tensor.moments?, if_pos none]
  rfl

omit [Variates R G] in
theorem entries_of_fit? {elite : Tensor R} {n : Nat} (shaped : elite.shape = (n + 1) :: shape) :
    ∃ fitted, fit? elite = some fitted ∧ fitted.Shaped shape ∧
      ∀ {i : List Nat}, shape.InBounds i →
        fitted.mean[i]? = some (CrossEntropy.mean (elite.lane 0 i)) ∧
          fitted.stddev[i]? = some (Scalar.sqrt (variance (elite.lane 0 i))) := by
  obtain ⟨means, variances, found, hm, hv, entries⟩ := Tensor.exists_moments? shaped
  rw [fit?, found]
  refine ⟨_, rfl, ⟨hm, hv⟩, fun {i} inside => ⟨(entries inside).1, ?_⟩⟩
  rw [Tensor.getElem?_map, (entries inside).2, Option.map_some]

omit [Variates R G] in
theorem mix?_of_parts {w : R} {a b : Gaussian R} {mean stddev : Tensor R} (means : mix? w a.mean b.mean = some mean)
    (stddevs : mix? w a.stddev b.stddev = some stddev) : mix? w a b = some ⟨mean, stddev⟩ := by
  change Option.bind (mix? w a.mean b.mean) _ = _
  rw [means, Option.bind_some]
  change Option.bind (mix? w a.stddev b.stddev) _ = _
  rw [stddevs]
  rfl

omit [Variates R G] in
theorem parts_of_mix? {w : R} {a b m : Gaussian R} (mixed : mix? w a b = some m) :
    mix? w a.mean b.mean = some m.mean ∧ mix? w a.stddev b.stddev = some m.stddev := by
  obtain ⟨mean, means, rest⟩ := Option.bind_eq_some_iff.1 mixed
  obtain ⟨stddev, stddevs, rest⟩ := Option.bind_eq_some_iff.1 rest
  obtain rfl := Option.some.inj rest
  exact ⟨means, stddevs⟩

theorem generator_of_sample {S : Type} {s : State (Gaussian R) S} {rng rng' : G} {memory : σ} {batch : Tensor R}
    (drawn : s.params.sample s.settings.numSamples rng = (.ok batch, rng')) :
    generator s rng memory = (.ok batch, rng', memory) := by
  simp only [generator, drawn]
  rfl

theorem closed_shapes (shape : Shape) :
    Closed R (generator (G := G)) (estimator (σ := σ)) (Shaped (R := R) shape) shape (·.shape = shape) where
  draws {s} rng memory good := by
    obtain ⟨batch, drawn, shaped, -⟩ := entries_of_sample good s.settings.numSamples rng
    exact ⟨batch, _, generator_of_sample drawn, shaped, fun row member => Tensor.shape_eq_of_mem_rows shaped member⟩
  fits {s elite n} memory good shaped known := by
    obtain ⟨fitted, fits, kept, -⟩ := entries_of_fit? shaped
    refine ⟨fitted, ?_, kept⟩
    simp only [estimator, fits, Option.getD_some]
  mixes smoothing estimated current fitted good := by
    obtain ⟨mean, mixedMean, meanShape, -⟩ :=
      Tensor.mix?_of_shape_eq smoothing.weight (fitted.mean.trans good.mean.symm)
    obtain ⟨stddev, mixedStddev, stddevShape, -⟩ :=
      Tensor.mix?_of_shape_eq smoothing.weight (fitted.stddev.trans good.stddev.symm)
    refine ⟨⟨mean, stddev⟩, ?_, meanShape.trans good.mean, stddevShape.trans good.stddev⟩
    exact mix?_of_parts mixedMean mixedStddev

end Gaussian

namespace Beta
variable {p : Beta R} {n : Nat}

omit [Scalar R] in
structure Shaped (n : Nat) (p : Beta R) : Prop where
  alpha : p.alpha.shape = [n]
  beta : p.beta.shape = [n]

omit [Scalar R] [Variates R G] in
theorem length_shapes (shaped : p.Shaped n) : p.shapes.length = n := by
  simp [shapes, Tensor.toList, Tensor.size_eq, shaped.alpha, shaped.beta]

theorem exists_sample (shaped : p.Shaped n) (count : Nat) (g : G) : ∃ batch,
    p.sample count g = (.ok batch, (drawEach variate (List.replicate count p.shapes).flatten g).2) ∧
      batch.shape = [count, n] ∧ batch.toList = (drawEach variate (List.replicate count p.shapes).flatten g).1 := by
  rw [sample, if_pos (shaped.alpha.trans shaped.beta.symm), ← batchShapes_eq_flatten]
  exact ⟨_, rfl, congrArg (fun n => [count, n]) (length_shapes shaped), rfl⟩

omit [Variates R G] in
theorem entries_of_fit {elite : Tensor R} {current : Beta R} {count : Nat} (shaped : current.Shaped n)
    (layout : elite.shape = [count + 1, n]) :
    ∃ fitted, fit elite current = .ok fitted ∧ fitted.Shaped n ∧ ∀ {j : Nat} {a b : R},
      current.alpha[[j]]? = some a → current.beta[[j]]? = some b →
        fitted.alpha[[j]]? = some (matchMoments (mean (elite.lane 0 [j])) (variance (elite.lane 0 [j])) (a, b)).1 ∧
        fitted.beta[[j]]? = some (matchMoments (mean (elite.lane 0 [j])) (variance (elite.lane 0 [j])) (a, b)).2 := by
  have same : current.alpha.shape = current.beta.shape := shaped.alpha.trans shaped.beta.symm
  have width : elite.shape.tail = current.alpha.shape := by rw [layout, shaped.alpha]; rfl
  have some : elite.extent 0 ≠ 0 := Tensor.extent_zero layout ▸ count.succ_ne_zero
  rw [fit, dif_pos same, if_pos width, if_neg some]
  refine ⟨_, rfl, ⟨shaped.alpha, shaped.alpha⟩, fun {j a b} alpha beta => ?_⟩
  obtain ⟨inside, rfl⟩ := Tensor.getElem?_eq_some_iff.1 alpha
  obtain ⟨_, rfl⟩ := Tensor.getElem?_eq_some_iff.1 beta
  exact ⟨Tensor.getElem?_ofFn inside, Tensor.getElem?_ofFn inside⟩

omit [Variates R G] in
theorem cases_of_fit {elite : Tensor R} {current estimated : Beta R} (fits : fit elite current = .ok estimated) :
    ∃ same : current.alpha.shape = current.beta.shape, estimated = current ∨
      estimated =
        ⟨.ofFn current.alpha.shape fun i h => (matchMoments (mean (elite.lane 0 i)) (variance (elite.lane 0 i))
            (current.alpha.get i h, current.beta.get i (same ▸ h))).1,
          .ofFn current.alpha.shape fun i h => (matchMoments (mean (elite.lane 0 i)) (variance (elite.lane 0 i))
            (current.alpha.get i h, current.beta.get i (same ▸ h))).2⟩ := by
  rw [fit] at fits
  split at fits
  · rename_i same
    split at fits
    · split at fits
      · exact ⟨same, .inl (Except.ok.inj fits).symm⟩
      · exact ⟨same, .inr (Except.ok.inj fits).symm⟩
    · cases fits
  · cases fits

omit [Variates R G] in
theorem mix?_of_parts {w : R} {a b : Beta R} {alpha beta : Tensor R} (alphas : mix? w a.alpha b.alpha = some alpha)
    (betas : mix? w a.beta b.beta = some beta) : mix? w a b = some ⟨alpha, beta⟩ := by
  change Option.bind (mix? w a.alpha b.alpha) _ = _
  rw [alphas, Option.bind_some]
  change Option.bind (mix? w a.beta b.beta) _ = _
  rw [betas]
  rfl

omit [Variates R G] in
theorem parts_of_mix? {w : R} {a b m : Beta R} (mixed : mix? w a b = some m) :
    mix? w a.alpha b.alpha = some m.alpha ∧ mix? w a.beta b.beta = some m.beta := by
  obtain ⟨alpha, alphas, rest⟩ := Option.bind_eq_some_iff.1 mixed
  obtain ⟨beta, betas, rest⟩ := Option.bind_eq_some_iff.1 rest
  obtain rfl := Option.some.inj rest
  exact ⟨alphas, betas⟩

theorem closed_shapes (n : Nat) :
    Closed R (generator (G := G)) (estimator (σ := σ)) (Shaped (R := R) n) [n] (·.shape = [n]) where
  draws {s} rng memory good := by
    obtain ⟨batch, drawn, shaped, -⟩ := exists_sample good s.settings.numSamples rng
    refine ⟨batch, (s.params.sample s.settings.numSamples rng).2, ?_, shaped,
      fun row member => Tensor.shape_eq_of_mem_rows shaped member⟩
    simp only [generator, drawn]
    rfl
  fits {s elite n} memory good shaped known := by
    obtain ⟨fitted, fits, kept, -⟩ := entries_of_fit good shaped
    refine ⟨fitted, ?_, kept⟩
    simp only [estimator, fits]
    rfl
  mixes smoothing estimated current fitted good := by
    obtain ⟨alpha, mixedAlpha, alphaShape, -⟩ :=
      Tensor.mix?_of_shape_eq smoothing.weight (fitted.alpha.trans good.alpha.symm)
    obtain ⟨beta, mixedBeta, betaShape, -⟩ :=
      Tensor.mix?_of_shape_eq smoothing.weight (fitted.beta.trans good.beta.symm)
    refine ⟨⟨alpha, beta⟩, ?_, alphaShape.trans good.alpha, betaShape.trans good.beta⟩
    exact mix?_of_parts mixedAlpha mixedBeta

end Beta

namespace Categorical
variable {p : Tensor R} {rows columns : Nat}

theorem exists_sample (shape : p.shape = [rows, columns]) (pos : 0 < rows) (count : Nat) (g : G) :
    ∃ batch g', sample p count g = (.ok batch, g') ∧ batch.shape = [count, columns] ∧
      ∀ row ∈ batch.rows, ∀ {j x : Nat}, row.toList[j]? = some x →
        j < columns ∧
          ∃ g'' : G, x = firstExceeding (runningSums (p.lane 0 [j])) (Variates.uniform (R := R) g'').1 := by
  rcases Nat.eq_zero_or_pos count with rfl | more
  · refine ⟨.replicate [0, columns] 0, g, sample_of_zero shape g, rfl, fun row member => ?_⟩
    obtain ⟨k, -⟩ := List.mem_ofFn.1 member
    exact absurd k.2 (Nat.not_lt_zero _)
  · obtain ⟨batch, sampled, sized, entries⟩ := sample_of_pos shape pos more g
    refine ⟨batch, _, sampled, sized, fun row member {j x} found => ?_⟩
    obtain ⟨i, hi, hj, entry⟩ := Tensor.getElem?_toList_of_mem_rows sized member found
    obtain ⟨draw, drawn, value⟩ := entries hi hj
    obtain ⟨g'', rfl⟩ := exists_draw_of_mem_drawMany (List.mem_of_getElem? drawn)
    exact ⟨hj, g'', Option.some.inj (entry.symm.trans value)⟩

theorem value_lt (shape : p.shape = [rows, columns]) (pos : 0 < rows) {j : Nat} (hj : j < columns) (draw : R) :
    firstExceeding (runningSums (p.lane 0 [j])) draw < rows := by
  obtain ⟨entries, -, pick⟩ := exists_pick_column shape pos hj draw
  exact pick.lt

theorem generator_of_sample {S : Type} {s : State (Tensor R) S} {rng rng' : G} {memory : σ} {batch : Tensor Nat}
    (drawn : sample s.params s.settings.numSamples rng = (.ok batch, rng'))
    (layout : batch.shape = [s.settings.numSamples, columns]) : generator s rng memory = (.ok batch, rng', memory) := by
  simp only [generator, generate_of_sample drawn layout]
  rfl

/-- A value for each variable, all values known. -/
structure Assignment (rows columns : Nat) (row : Tensor Nat) : Prop where
  shape : row.shape = [columns]
  known : ∀ x ∈ row.toList, x < rows

omit [Scalar R] [Variates R G] in
theorem Assignment.exists_value {row : Tensor Nat} {j : Nat} (assignment : Assignment rows columns row)
    (hj : j < columns) : ∃ v < rows, row.toList[j]? = some v := by
  have inside : j < row.toList.length := by simp [Tensor.toList, Tensor.size_eq, assignment.shape, hj]
  exact ⟨_, assignment.known _ (List.getElem_mem inside), List.getElem?_eq_getElem inside⟩

theorem assignment_of_sample {batch row : Tensor Nat} {count : Nat} {g g' : G} (shape : p.shape = [rows, columns])
    (pos : 0 < rows) (sampled : sample p count g = (.ok batch, g')) (member : row ∈ batch.rows) :
    Assignment rows columns row := by
  obtain ⟨batch', g'', sampled', shaped, values⟩ := exists_sample shape pos count g
  obtain rfl := Except.ok.inj (Prod.mk.inj (sampled.symm.trans sampled')).1
  refine ⟨Tensor.shape_eq_of_mem_rows shaped member, fun x inside => ?_⟩
  obtain ⟨j, found⟩ := List.mem_iff_getElem?.1 inside
  obtain ⟨hj, _, rfl⟩ := values row member found
  exact value_lt shape pos hj _

theorem closed_shapes (pos : 0 < rows) :
    Closed R (generator (G := G)) (estimator (σ := σ)) (fun p : Tensor R => p.shape = [rows, columns]) [columns]
      (Assignment rows columns) where
  draws {s} rng memory good := by
    obtain ⟨batch, rng', sampled, shaped, -⟩ := exists_sample good pos s.settings.numSamples rng
    exact ⟨batch, rng', generator_of_sample sampled shaped, shaped, fun row => assignment_of_sample good pos sampled⟩
  fits {s elite n} memory good shaped known := by
    have height : numValues s.params = rows := Tensor.extent_zero good
    obtain ⟨fitted, fits, shape, -⟩ := exists_fit (R := R) shaped fun row member => (known row member).known
    refine ⟨fitted, ?_, shape⟩
    simp only [estimator, height, fits]
    rfl
  mixes smoothing estimated current fitted good := by
    obtain ⟨params, mixed, shape, -⟩ := Tensor.mix?_of_shape_eq smoothing.weight (fitted.trans good.symm)
    exact ⟨params, mixed, shape.trans good⟩

end Categorical

theorem runs_keep_shapes :
    (∀ {p : Problem (Gaussian R) R Float G σ} {shape : Shape},
      p.strategies.Standard R Gaussian.generator Gaussian.estimator → p.params.Shaped shape →
      p.FailsOnlyByScorer (Strategies.Standard R Gaussian.generator Gaussian.estimator)
        (Gaussian.Shaped shape) (·.shape = shape)) ∧
    (∀ {p : Problem (Beta R) R Float G σ} {n : Nat},
      p.strategies.Standard R Beta.generator Beta.estimator → p.params.Shaped n →
      p.FailsOnlyByScorer (Strategies.Standard R Beta.generator Beta.estimator) (Beta.Shaped n) (·.shape = [n])) ∧
    ∀ {p : Problem (Tensor R) Nat Float G σ} {rows columns : Nat},
      p.strategies.Standard R Categorical.generator Categorical.estimator → p.params.shape = [rows, columns] →
      0 < rows →
      p.FailsOnlyByScorer (Strategies.Standard R Categorical.generator Categorical.estimator)
        (·.shape = [rows, columns]) (Categorical.Assignment rows columns) :=
  ⟨fun standard good => (Gaussian.closed_shapes _).failsOnlyByScorer standard good,
    fun standard good => (Beta.closed_shapes _).failsOnlyByScorer standard good,
    fun standard good pos => (Categorical.closed_shapes pos).failsOnlyByScorer standard good⟩

def indifferent {P α G : Type} (strategies : Strategies P α Float G Unit) (params : P) (rng : G) :
    Problem P α Float G Unit where
  strategies := { strategies with scorer := some fun _ memory => (.ok 1.5, memory) }
  session :=
    { state := { State.initial params with settings := { numSamples := 3, numElite := 2, maxIters := some 4 } }
      rng
      memory := ()
      bestSample := none }

def Categorical.coin : Tensor Float := ⟨[2, 1], #[0.5, 0.5], rfl⟩

theorem runs_of_indifferent :
    let g : Replay := ⟨#[0, 0xFFFFFFFFFFFFFFFF], 0⟩
    (∃ out, (indifferent Gaussian.strategies ⟨.scalar 0.5, .scalar 1.5⟩ g).solve 4 = some out ∧
      out.ending = .ok .stopRule ∧ out.session.state.numIters = 4) ∧
    (∃ out, (indifferent Beta.strategies ⟨.vector [2.5, 0.5], .vector [1.5, 70.5]⟩ g).solve 4 = some out ∧
      out.ending = .ok .stopRule ∧ out.session.state.numIters = 4) ∧
    ∃ out, (indifferent Categorical.strategies Categorical.coin g).solve 4 = some out ∧
      out.ending = .ok .stopRule ∧ out.session.state.numIters = 4 := by
  intro g
  have number : (1.5 : Float).isNaN = false := by decide +kernel
  have reliable {α : Type} (sample : Tensor α → Prop) :
      Scorer.Reliable (fun _ memory => (.ok 1.5, memory)) (fun _ : Unit => True) sample :=
    fun _ memory _ _ => ⟨1.5, memory, rfl, number, trivial⟩
  have scalar : Gaussian.Shaped (R := Float) [] ⟨.scalar 0.5, .scalar 1.5⟩ := ⟨rfl, rfl⟩
  have pair : Beta.Shaped (R := Float) 2 ⟨.vector [2.5, 0.5], .vector [1.5, 70.5]⟩ := ⟨rfl, rfl⟩
  have sides : Categorical.coin.shape = [2, 1] := rfl
  have gaussian := (runs_keep_shapes (R := Float)).1
    (p := indifferent Gaussian.strategies ⟨.scalar 0.5, .scalar 1.5⟩ g) ⟨rfl, rfl, .inl rfl⟩ scalar
  have beta := (runs_keep_shapes (R := Float)).2.1
    (p := indifferent Beta.strategies ⟨.vector [2.5, 0.5], .vector [1.5, 70.5]⟩ g) ⟨rfl, rfl, .inl rfl⟩ pair
  have categorical := (runs_keep_shapes (R := Float)).2.2
    (p := indifferent Categorical.strategies Categorical.coin g) ⟨rfl, rfl, .inl rfl⟩ sides Nat.two_pos
  obtain ⟨first, made₁, ended₁⟩ := gaussian.completes .refl rfl rfl rfl rfl (reliable _) trivial
  obtain ⟨second, made₂, ended₂⟩ := beta.completes .refl rfl rfl rfl rfl (reliable _) trivial
  obtain ⟨third, made₃, ended₃⟩ := categorical.completes .refl rfl rfl rfl rfl (reliable _) trivial
  exact ⟨⟨first, made₁ 4 (by decide), ended₁⟩, ⟨second, made₂ 4 (by decide), ended₂⟩,
    ⟨third, made₃ 4 (by decide), ended₃⟩⟩

end CrossEntropy
