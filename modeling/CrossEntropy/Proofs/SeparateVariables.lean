import CrossEntropy.Proofs.Correspondence
import CrossEntropy.Proofs.FamilyRuns

namespace CrossEntropy
variable {α R S G σ : Type} {hidden : List Nat → Prop}

structure Tensor.AgreesOff (hidden : List Nat → Prop) (a b : Tensor α) : Prop where
  shape : b.shape = a.shape
  entry : ∀ {i : List Nat}, ¬hidden i → b[i]? = a[i]?

def Scorer.Ignores (scorer : Scorer α S σ) (shape : Shape) (hidden : List Nat → Prop) : Prop :=
  ∀ x y, x.shape = shape → x.AgreesOff hidden y → scorer y = scorer x

namespace Tensor.AgreesOff
variable {a b c d : Tensor α}

theorem refl (a : Tensor α) : a.AgreesOff hidden a := ⟨rfl, fun _ => rfl⟩

theorem of_inBounds (shape : b.shape = a.shape)
    (entries : ∀ {i}, a.shape.InBounds i → ¬hidden i → b[i]? = a[i]?) : a.AgreesOff hidden b := by
  refine ⟨shape, fun {i} shown => ?_⟩
  by_cases inside : a.shape.InBounds i
  · exact entries inside shown
  · have outside : ¬b.shape.InBounds i := shape.symm ▸ inside
    rw [getElem?_eq_none inside, getElem?_eq_none outside]

theorem row (h : a.AgreesOff (fun i => hidden i.tail) b) {k : Nat} (lt : k < a.extent 0) (lt' : k < b.extent 0) :
    (a.row k lt).AgreesOff hidden (b.row k lt') := by
  refine ⟨congrArg List.tail h.shape, fun {i} shown => ?_⟩
  rw [getElem?_row, getElem?_row]
  exact h.entry shown

theorem lane (h : a.AgreesOff (fun i => hidden i.tail) b) {i : List Nat} (shown : ¬hidden i) :
    b.lane 0 i = a.lane 0 i := by
  rw [Tensor.lane, Tensor.lane, extent, extent, h.shape]
  exact List.filterMap_congr fun k _ => h.entry shown

theorem mix [Scalar R] {p q p' q' : Tensor R} (estimated : p.AgreesOff hidden p') (current : q.AgreesOff hidden q')
    (same : p.shape = q.shape) (w : R) :
    ∃ m m', mix? w p q = some m ∧ mix? w p' q' = some m' ∧ m.shape = q.shape ∧ m.AgreesOff hidden m' := by
  have same' : p'.shape = q'.shape := estimated.shape.trans (same.trans current.shape.symm)
  obtain ⟨m, mixed, shape, entries⟩ := mix?_of_shape_eq w same
  obtain ⟨m', mixed', shape', entries'⟩ := mix?_of_shape_eq w same'
  refine ⟨m, m', mixed, mixed', shape, of_inBounds (shape'.trans (current.shape.trans shape.symm)) ?_⟩
  intro i inside shown
  have inside : q.shape.InBounds i := shape ▸ inside
  have x : p[i]? = some _ := dif_pos (same.symm ▸ inside)
  have y : q[i]? = some _ := dif_pos inside
  rw [entries x y, entries' ((estimated.entry shown).trans x) ((current.entry shown).trans y)]

end Tensor.AgreesOff

variable [Scalar R]

namespace Gaussian
variable {initial p q : Gaussian R} {shape : Shape}

omit [Scalar R] in
structure AgreesOff (hidden : List Nat → Prop) (initial p q : Gaussian R) : Prop where
  means : p.mean.shape = initial.mean.shape
  stddevs : p.stddev.shape = initial.stddev.shape
  mean : p.mean.AgreesOff hidden q.mean
  stddev : p.stddev.AgreesOff hidden q.stddev

omit [Scalar R] in
structure SamplesAgreeOff (hidden : List Nat → Prop) (initial : Gaussian R) (x y : Tensor R) : Prop where
  drawn : initial.mean.shape = initial.stddev.shape
  shape : x.shape = initial.mean.shape
  agrees : x.AgreesOff hidden y

variable [Variates R G]

theorem batches_agree (shaped : p.Shaped shape) (shaped' : q.Shaped shape) (mean : p.mean.AgreesOff hidden q.mean)
    (stddev : p.stddev.AgreesOff hidden q.stddev) (count : Nat) (g : G) :
    ∃ batch batch' g', p.sample count g = (.ok batch, g') ∧ q.sample count g = (.ok batch', g') ∧
      batch.shape = count :: shape ∧ batch.AgreesOff (fun i => hidden i.tail) batch' := by
  obtain ⟨batch, drawn, layout, entries⟩ := entries_of_sample shaped count g
  obtain ⟨batch', drawn', layout', entries'⟩ := entries_of_sample shaped' count g
  refine ⟨batch, batch', _, drawn, drawn', layout, .of_inBounds (layout'.trans layout.symm) ?_⟩
  intro i inside shown
  rw [layout] at inside
  obtain ⟨k, i, rfl, hk, inside⟩ := inside.exists_cons
  have m : p.mean[i]? = some _ := dif_pos (shaped.mean.symm ▸ inside)
  have s : p.stddev[i]? = some _ := dif_pos (shaped.stddev.symm ▸ inside)
  have entry' := entries' hk ((mean.entry shown).trans m) ((stddev.entry shown).trans s)
  exact entry'.trans (entries hk m s).symm

theorem equivariant_of_hidden (hidden : List Nat → Prop) (initial : Gaussian R) :
    Equivariant R (generator (S := S) (G := G)) (estimator (σ := σ)) (AgreesOff hidden initial) initial.mean.shape
      (SamplesAgreeOff hidden initial) where
  draws {s t} matched rng memory := by
    have agrees := matched.params
    have count : t.settings.numSamples = s.settings.numSamples := by rw [matched.rest]
    by_cases same : initial.mean.shape = initial.stddev.shape
    · have shaped : s.params.Shaped initial.mean.shape := ⟨agrees.means, agrees.stddevs.trans same.symm⟩
      have shaped' : t.params.Shaped initial.mean.shape :=
        ⟨agrees.mean.shape.trans shaped.mean, agrees.stddev.shape.trans shaped.stddev⟩
      obtain ⟨batch, batch', rng', drawn, drawn', layout, hides⟩ :=
        batches_agree shaped shaped' agrees.mean agrees.stddev s.settings.numSamples rng
      rw [← count] at drawn'
      rw [generator_of_sample drawn, generator_of_sample drawn']
      refine ⟨.ok (.of_row layout (hides.shape.trans layout) fun k lt lt' => ⟨same, ?_, hides.row lt lt'⟩), rfl⟩
      exact congrArg List.tail layout
    · have clash : s.params.mean.shape ≠ s.params.stddev.shape := by rwa [agrees.means, agrees.stddevs]
      simp only [generator, sample, dif_neg clash, agrees.mean.shape, agrees.stddev.shape]
      exact ⟨.error rfl, rfl⟩
  fits {elite elite' s t} related matched memory := by
    have agrees := matched.params
    have count : elite'.extent 0 = elite.extent 0 := related.extent 0
    rcases size : elite.extent 0 with _ | n
    · simp only [estimator, fit?_of_empty size, fit?_of_empty (count.trans size), Option.getD_none]
      exact ⟨.ok agrees, rfl⟩
    · have layout : elite.shape = (n + 1) :: initial.mean.shape := size ▸ related.layout
      obtain ⟨fitted, fits, kept, entries⟩ := entries_of_fit? layout
      obtain ⟨fitted', fits', kept', entries'⟩ := entries_of_fit? (related.shape.trans layout)
      -- a row has been drawn, so the initial shapes are the same
      have same := (related.row (k := 0) (by omega) (by omega)).drawn
      have lane {i : List Nat} (shown : ¬hidden i) : elite'.lane 0 i = elite.lane 0 i := by
        rw [related.lane (f := id) fun related => ?_, List.map_id]
        exact (related.agrees.entry shown).trans (congrFun Option.map_id _).symm
      have agrees : AgreesOff hidden initial fitted fitted' := by
        refine ⟨kept.mean, kept.stddev.trans same, .of_inBounds (kept'.mean.trans kept.mean.symm) ?_,
          .of_inBounds (kept'.stddev.trans kept.stddev.symm) ?_⟩
        · intro i inside shown
          have inside : initial.mean.shape.InBounds i := kept.mean ▸ inside
          rw [(entries inside).1, (entries' inside).1, lane shown]
        · intro i inside shown
          have inside : initial.mean.shape.InBounds i := kept.stddev ▸ inside
          rw [(entries inside).2, (entries' inside).2, lane shown]
      simp only [estimator, fits, fits', Option.getD_some]
      exact ⟨.ok agrees, rfl⟩
  mixes smoothing estimated estimated' current current' fitted good := by
    obtain ⟨mean, mean', mixed, mixed', means, agree⟩ :=
      fitted.mean.mix good.mean (fitted.means.trans good.means.symm) smoothing.weight
    obtain ⟨stddev, stddev', spread, spread', stddevs, agree'⟩ :=
      fitted.stddev.mix good.stddev (fitted.stddevs.trans good.stddevs.symm) smoothing.weight
    rw [mix?_of_parts mixed spread, mix?_of_parts mixed' spread']
    exact .some ⟨means.trans good.means, stddevs.trans good.stddevs, agree, agree'⟩

end Gaussian

namespace Categorical
variable {p q : Tensor R} {rows columns : Nat}

structure AgreesOff (hidden : List Nat → Prop) (rows columns : Nat) (p q : Tensor R) : Prop where
  shape : p.shape = [rows, columns]
  agrees : p.AgreesOff (fun i => hidden i.tail) q

structure AssignmentsAgreeOff (hidden : List Nat → Prop) (rows columns : Nat) (x y : Tensor Nat) : Prop where
  left : Assignment rows columns x
  right : Assignment rows columns y
  agrees : x.AgreesOff hidden y

variable [Variates R G]

theorem batches_agree (agrees : AgreesOff hidden rows columns p q) {count : Nat} (drawable : count ≠ 0 → 0 < rows)
    (g : G) :
    ∃ batch batch' g', sample p count g = (.ok batch, g') ∧ sample q count g = (.ok batch', g') ∧
      batch.shape = [count, columns] ∧ batch.AgreesOff (fun i => hidden i.tail) batch' := by
  have shape := agrees.shape
  have shape' : q.shape = [rows, columns] := agrees.agrees.shape.trans shape
  rcases Nat.eq_zero_or_pos count with rfl | more
  · exact ⟨_, _, g, sample_of_zero shape g, sample_of_zero shape' g, rfl, .refl _⟩
  · have pos := drawable (Nat.ne_of_gt more)
    obtain ⟨batch, sampled, layout, entries⟩ := sample_of_pos shape pos more g
    obtain ⟨batch', sampled', layout', entries'⟩ := sample_of_pos shape' pos more g
    refine ⟨batch, batch', _, sampled, sampled', layout, .of_inBounds (layout'.trans layout.symm) ?_⟩
    intro i inside shown
    rw [layout] at inside
    obtain ⟨k, j, rfl, hk, hj⟩ := inside.exists_pair
    obtain ⟨draw, drawn, value⟩ := entries hk hj
    obtain ⟨draw', drawn', value'⟩ := entries' hk hj
    obtain rfl := Option.some.inj (drawn.symm.trans drawn')
    have lane : q.lane 0 [j] = p.lane 0 [j] := agrees.agrees.lane shown
    rw [value, value', lane]

theorem equivariant_of_hidden (hidden : List Nat → Prop) (rows columns : Nat) :
    Equivariant R (generator (R := R) (S := S) (G := G)) (estimator (σ := σ)) (AgreesOff hidden rows columns) [columns]
      (AssignmentsAgreeOff hidden rows columns) where
  draws {s t} matched rng memory := by
    have agrees := matched.params
    have shape' : t.params.shape = [rows, columns] := agrees.agrees.shape.trans agrees.shape
    have count : t.settings.numSamples = s.settings.numSamples := by rw [matched.rest]
    by_cases drawable : s.settings.numSamples ≠ 0 → 0 < rows
    · obtain ⟨batch, batch', rng', sampled, sampled', layout, hides⟩ := batches_agree agrees drawable rng
      have layout' : batch'.shape = [t.settings.numSamples, columns] := count ▸ hides.shape.trans layout
      rw [← count] at sampled'
      rw [generator_of_sample sampled layout, generator_of_sample sampled' layout']
      refine ⟨.ok (.of_row layout (hides.shape.trans layout) fun k lt lt' => ?_), rfl⟩
      have drawn : k < s.settings.numSamples := Tensor.extent_zero layout ▸ lt
      have pos := drawable (Nat.ne_zero_of_lt drawn)
      refine ⟨?_, ?_, hides.row lt lt'⟩
      · exact assignment_of_sample agrees.shape pos sampled (List.mem_ofFn.2 ⟨⟨k, lt⟩, rfl⟩)
      · exact assignment_of_sample shape' pos sampled' (List.mem_ofFn.2 ⟨⟨k, lt'⟩, rfl⟩)
    · obtain ⟨some, none⟩ := Classical.not_imp.1 drawable
      obtain rfl := Nat.eq_zero_of_not_pos none
      have refused := sample_of_valueless agrees.shape some rng
      have refused' := sample_of_valueless shape' (count ▸ some) rng
      simp only [generator, generate_of_refused refused, generate_of_refused refused']
      exact ⟨.error rfl, rfl⟩
  fits {elite elite' s t} related matched memory := by
    have agrees := matched.params
    have shape' : t.params.shape = [rows, columns] := agrees.agrees.shape.trans agrees.shape
    have height : numValues s.params = rows := Tensor.extent_zero agrees.shape
    have height' : numValues t.params = rows := Tensor.extent_zero shape'
    simp only [estimator, height, height']
    rcases size : elite.extent 0 with _ | n
    · have layout : elite.shape = [0, columns] := size ▸ related.layout
      rw [fit_of_rows_eq_nil layout, fit_of_rows_eq_nil (related.shape.trans layout)]
      exact ⟨.ok ⟨rfl, .refl _⟩, rfl⟩
    · have layout : elite.shape = [n + 1, columns] := size ▸ related.layout
      have count := related.extent 0
      have known : ∀ row ∈ elite.rows, Assignment rows columns row := by
        intro row member
        obtain ⟨k, rfl⟩ := List.mem_ofFn.1 member
        exact (related.row k.2 (k.2.trans_eq count.symm)).left
      have known' : ∀ row ∈ elite'.rows, Assignment rows columns row := by
        intro row member
        obtain ⟨k, rfl⟩ := List.mem_ofFn.1 member
        exact (related.row (k.2.trans_eq count) k.2).right
      obtain ⟨fitted, fits, shape, shares⟩ := exists_fit (R := R) layout fun row member => (known row member).known
      obtain ⟨fitted', fits', shape', shares'⟩ :=
        exists_fit (R := R) (related.shape.trans layout) fun row member => (known' row member).known
      have agree : fitted.AgreesOff (fun i => hidden i.tail) fitted' := by
        refine .of_inBounds (shape'.trans shape.symm) fun {i} inside shown => ?_
        rw [shape] at inside
        obtain ⟨v, j, rfl, hv, hj⟩ := inside.exists_pair
        have counts : (elite'.rows.countP fun row => row.toList[j]? = some v) =
            elite.rows.countP fun row => row.toList[j]? = some v := by
          refine related.countP fun {x y} related => ?_
          have value := related.agrees.entry shown
          rw [List.tail_cons] at value
          rw [Tensor.getElem?_toList related.left.shape, Tensor.getElem?_toList related.right.shape, value]
        rw [shares hv hj, shares' hv hj, counts]
      rw [fits, fits']
      exact ⟨.ok ⟨shape, agree⟩, rfl⟩
  mixes smoothing estimated estimated' current current' fitted good := by
    obtain ⟨m, n, mixed, mixed', shape, agrees⟩ :=
      fitted.agrees.mix good.agrees (fitted.shape.trans good.shape.symm) smoothing.weight
    rw [mixed, mixed']
    exact .some ⟨shape.trans good.shape, agrees⟩

end Categorical

omit [Scalar R] in
theorem scorers_of_ignores {scorer : Option (Scorer α S σ)} {shape : Shape} {sample : Tensor α → Tensor α → Prop}
    (ignores : ∀ f, scorer = some f → f.Ignores shape hidden) (shaped : ∀ {x y}, sample x y → x.shape = shape)
    (agrees : ∀ {x y}, sample x y → x.AgreesOff hidden y) :
    Option.Rel (fun f g => ∀ x y, sample x y → g y = f x) scorer scorer := by
  cases scorer with
  | none => exact .none
  | some f => exact .some fun x y related => ignores f rfl x y (shaped related) (agrees related)

omit [Scalar R] in
theorem Session.Matches.withParams {P : Type} {params : P → P → Prop} {p : Problem P α S G σ} {other : P}
    (related : params p.params other) :
    p.session.Matches params (Tensor.AgreesOff hidden) (p.withParams other).session := by
  refine ⟨⟨related, rfl⟩, rfl, rfl, ?_⟩
  change Option.Rel _ p.session.bestSample p.session.bestSample
  cases p.session.bestSample with
  | none => exact .none
  | some best => exact .some (.refl best)

variable [Variates R G]

/-- Initial parameters that differ in one variable only, which the scorer does not read. -/
theorem runs_of_hidden_variable [Score S] :
    (∀ {p : Problem (Gaussian R) R S G σ} {params : Gaussian R} {j : List Nat},
      p.strategies.Default R Gaussian.generator Gaussian.estimator →
      (∀ scorer, p.strategies.scorer = some scorer → scorer.Ignores p.params.mean.shape (· = j)) →
      p.params.mean.AgreesOff (· = j) params.mean → p.params.stddev.AgreesOff (· = j) params.stddev →
      p.InTandem (p.withParams params) (Gaussian.AgreesOff (· = j) p.params) p.params.mean.shape
        (Gaussian.SamplesAgreeOff (· = j) p.params) (Tensor.AgreesOff (· = j))) ∧
    ∀ {p : Problem (Tensor R) Nat S G σ} {params : Tensor R} {rows columns j : Nat},
      p.strategies.Default R Categorical.generator Categorical.estimator →
      (∀ scorer, p.strategies.scorer = some scorer → scorer.Ignores [columns] (· = [j])) →
      p.params.shape = [rows, columns] → p.params.AgreesOff (fun i => i.tail = [j]) params →
      p.InTandem (p.withParams params) (Categorical.AgreesOff (· = [j]) rows columns) [columns]
        (Categorical.AssignmentsAgreeOff (· = [j]) rows columns) (Tensor.AgreesOff (· = [j])) := by
  constructor
  · intro p params j default ignores mean stddev
    have scores := scorers_of_ignores ignores Gaussian.SamplesAgreeOff.shape Gaussian.SamplesAgreeOff.agrees
    exact (Gaussian.equivariant_of_hidden (· = j) p.params).inTandem default scores
      Gaussian.SamplesAgreeOff.agrees (.withParams ⟨rfl, rfl, mean, stddev⟩)
  · intro p params rows columns j default ignores shape agrees
    have shaped {x y : Tensor Nat} (related : Categorical.AssignmentsAgreeOff (· = [j]) rows columns x y) :
        x.shape = [columns] := related.left.shape
    have scores := scorers_of_ignores ignores shaped Categorical.AssignmentsAgreeOff.agrees
    exact (Categorical.equivariant_of_hidden (· = [j]) rows columns).inTandem default scores
      Categorical.AssignmentsAgreeOff.agrees (.withParams ⟨shape, agrees⟩)

def Scorer.first (value : Option α → Float) : Scorer α Float Unit := fun x memory => (.ok (value x[[0]]?), memory)

def oneSided {P α : Type} (strategies : Strategies P α Float Replay Unit) (value : Option α → Float) (params : P) :
    Problem P α Float Replay Unit :=
  (indifferent strategies params ⟨#[0, 0xFFFFFFFFFFFFFFFF], 0⟩).withStrategies fun s =>
    { s with scorer := some (.first value) }

theorem oneSided_ignores {P α : Type} {strategies : Strategies P α Float Replay Unit} {value : Option α → Float}
    {params : P} (shape : Shape) (scorer : Scorer α Float Unit)
    (installed : (oneSided strategies value params).strategies.scorer = some scorer) :
    scorer.Ignores shape (· = [1]) := by
  obtain rfl := Option.some.inj installed
  intro x y _ agrees
  have shown : ¬[0] = [1] := by decide
  funext memory
  rw [Scorer.first, Scorer.first, agrees.entry shown]

theorem runs_of_oneSided :
    let p := oneSided Gaussian.strategies (·.getD 0) ⟨.vector [0.5, 1.5], .vector [1.5, 2.5]⟩
    let q := oneSided Categorical.strategies (fun x => .ofNat (x.getD 0)) ⟨[2, 2], #[0.5, 0.25, 0.5, 0.75], rfl⟩
    (∃ out out', p.solve 4 = some out ∧
      (p.withParams ⟨.vector [0.5, -7.5], .vector [1.5, 0.25]⟩).solve 4 = some out' ∧ out.ending = out'.ending ∧
      out'.session.rng = out.session.rng ∧ out'.session.state.params.mean[[0]]? = out.session.state.params.mean[[0]]?) ∧
    ∃ out out', q.solve 4 = some out ∧
      (q.withParams ⟨[2, 2], #[0.5, 1.0, 0.5, 0.0], rfl⟩).solve 4 = some out' ∧ out.ending = out'.ending ∧
      out'.session.rng = out.session.rng ∧
      out'.session.state.params[[1, 0]]? = out.session.state.params[[1, 0]]? := by
  intro p q
  have shown : ¬[0] = [1] := by decide
  constructor
  · have pairs (x y z : Float) : (Tensor.vector [x, y]).AgreesOff (· = [1]) (.vector [x, z]) := by
      refine .of_inBounds rfl fun {i} inside shown => ?_
      match i, inside with
      | [0], _ => rfl
      | [1], _ => exact absurd rfl shown
    have mean : p.params.mean.AgreesOff (· = [1]) (.vector [0.5, -7.5]) := pairs ..
    have stddev : p.params.stddev.AgreesOff (· = [1]) (.vector [1.5, 0.25]) := pairs ..
    have tandem : p.InTandem (p.withParams ⟨.vector [0.5, -7.5], .vector [1.5, 0.25]⟩) _ _ _ _ :=
      runs_of_hidden_variable.1 (p := p) ⟨rfl, rfl, .inl rfl, rfl⟩ (oneSided_ignores _) mean stddev
    cases tandem.lockstep 4 with
    | ended made made' alike =>
        have matched := alike.session
        exact ⟨_, _, made, made', alike.ending.eq, matched.rng, matched.state.params.mean.entry shown⟩
    | goesOn proceeds => exact absurd (Problem.proceeds_below (p := p) rfl rfl rfl proceeds) (by decide)
  · have tables (x y z u v w : Float) : (⟨[2, 2], #[x, y, z, u], rfl⟩ : Tensor Float).AgreesOff
        (fun i => i.tail = [1]) ⟨[2, 2], #[x, v, z, w], rfl⟩ := by
      refine .of_inBounds rfl fun {i} inside shown => ?_
      match i, inside with
      | [0, 0], _ => rfl
      | [1, 0], _ => rfl
      | [0, 1], _ => exact absurd rfl shown
      | [1, 1], _ => exact absurd rfl shown
      | [_ + 2, _], ⟨lt, _⟩ => exact absurd lt (by omega)
      | [_, _ + 2], ⟨_, lt, _⟩ => exact absurd lt (by omega)
    have columns : q.params.AgreesOff (fun i => i.tail = [1]) ⟨[2, 2], #[0.5, 1.0, 0.5, 0.0], rfl⟩ := tables ..
    have tandem : q.InTandem (q.withParams ⟨[2, 2], #[0.5, 1.0, 0.5, 0.0], rfl⟩) _ _ _ _ :=
      runs_of_hidden_variable.2 (p := q) ⟨rfl, rfl, .inl rfl, rfl⟩ (oneSided_ignores _) rfl columns
    cases tandem.lockstep 4 with
    | ended made made' alike =>
        have matched := alike.session
        exact ⟨_, _, made, made', alike.ending.eq, matched.rng, matched.state.params.agrees.entry shown⟩
    | goesOn proceeds => exact absurd (Problem.proceeds_below (p := q) rfl rfl rfl proceeds) (by decide)

end CrossEntropy
