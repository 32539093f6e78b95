import CrossEntropy.Proofs.ExactArithmetic
import CrossEntropy.Proofs.BatchOrder
import CrossEntropy.Proofs.Correspondence
import CrossEntropy.Proofs.Stochastic

namespace CrossEntropy
variable {S G σ : Type}

noncomputable def Tensor.translate (a shift : Tensor ℝ) : Tensor ℝ :=
  .ofFn a.shape fun i hi => a.get i hi + shift[i]?.getD 0

namespace Tensor
variable {a b shift : Tensor ℝ}

theorem getElem?_translate (a shift : Tensor ℝ) (i : List Nat) :
    (a.translate shift)[i]? = a[i]?.map (· + shift[i]?.getD 0) := by
  by_cases inside : a.shape.InBounds i
  · have entry : a[i]? = some (a.get i inside) := dif_pos inside
    rw [entry]
    exact getElem?_ofFn inside
  · have outside : ¬(a.translate shift).shape.InBounds i := inside
    rw [getElem?_eq_none inside, getElem?_eq_none outside, Option.map_none]

theorem eq_translate (shape : b.shape = a.shape)
    (entries : ∀ {i : List Nat} {x}, a[i]? = some x → b[i]? = some (x + shift[i]?.getD 0)) :
    b = a.translate shift := by
  refine ext_getElem? shape fun {i} inside => ?_
  have entry : a[i]? = some _ := dif_pos inside
  rw [entries entry, getElem?_translate, entry, Option.map_some]

theorem translate_neg (a shift : Tensor ℝ) : (a.translate shift).translate (shift.map (-·)) = a := by
  refine ext_getElem? rfl fun {i} inside => ?_
  have entry : a[i]? = some _ := dif_pos inside
  have inverse : (shift[i]?.map (-·)).getD 0 = -(shift[i]?.getD 0) := by cases shift[i]? <;> simp
  rw [getElem?_translate, getElem?_translate, getElem?_map, entry, inverse, Option.map_some, Option.map_some,
    add_neg_cancel_right]

end Tensor

/-- Scores a sample as another scorer does the sample moved back. -/
noncomputable def Scorer.translated (scorer : Scorer ℝ S σ) (shift : Tensor ℝ) : Scorer ℝ S σ :=
  fun sample memory => scorer (sample.translate (shift.map (-·))) memory

noncomputable def Problem.translated (p : Problem (Gaussian ℝ) ℝ S G σ) (shift : Tensor ℝ) :
    Problem (Gaussian ℝ) ℝ S G σ where
  strategies := { p.strategies with scorer := p.strategies.scorer.map (·.translated shift) }
  session :=
    { p.session with
      state := { p.state with params := ⟨p.params.mean.translate shift, p.params.stddev⟩ }
      bestSample := p.session.bestSample.map (·.translate shift) }

namespace Gaussian
variable {shift : Tensor ℝ} {p q : Gaussian ℝ}

structure Translated (shift : Tensor ℝ) (p q : Gaussian ℝ) : Prop where
  shaped : p.Shaped shift.shape
  mean : q.mean = p.mean.translate shift
  stddev : q.stddev = p.stddev

structure SampleTranslated (shift x y : Tensor ℝ) : Prop where
  shape : x.shape = shift.shape
  moved : y = x.translate shift

theorem Translated.shaped' (h : Translated shift p q) : q.Shaped shift.shape :=
  ⟨(congrArg Tensor.shape h.mean).trans h.shaped.mean, h.stddev ▸ h.shaped.stddev⟩

theorem Translated.mean_entry (h : Translated shift p q) {i : List Nat} {x : ℝ} (found : p.mean[i]? = some x) :
    q.mean[i]? = some (x + shift[i]?.getD 0) := by
  rw [h.mean, Tensor.getElem?_translate, found, Option.map_some]

theorem batches_translated [Variates ℝ G] (moved : Translated shift p q) (count : Nat) (g : G) :
    ∃ batch batch' g', p.sample count g = (.ok batch, g') ∧ q.sample count g = (.ok batch', g') ∧
      batch.RowWise shift.shape (SampleTranslated shift) batch' := by
  obtain ⟨batch, drawn, layout, entries⟩ := entries_of_sample moved.shaped count g
  obtain ⟨batch', drawn', layout', entries'⟩ := entries_of_sample moved.shaped' count g
  refine ⟨batch, batch', _, drawn, drawn', .of_row layout layout' fun k lt lt' => ?_⟩
  have hk : k < count := Tensor.extent_zero layout ▸ lt
  have shape : (batch.row k lt).shape = shift.shape := congrArg List.tail layout
  have shape' : (batch'.row k lt').shape = shift.shape := congrArg List.tail layout'
  refine ⟨shape, Tensor.eq_translate (shape'.trans shape.symm) fun {i x} drew => ?_⟩
  obtain ⟨inside, -⟩ := Tensor.getElem?_eq_some_iff.1 drew
  have inside : shift.shape.InBounds i := shape ▸ inside
  have m : p.mean[i]? = some _ := dif_pos (moved.shaped.mean.symm ▸ inside)
  have s : p.stddev[i]? = some _ := dif_pos (moved.shaped.stddev.symm ▸ inside)
  have s' : q.stddev[i]? = some _ := (congrArg (·[i]?) moved.stddev).trans s
  rw [Tensor.getElem?_row, entries hk m s] at drew
  rw [Tensor.getElem?_row, entries' hk (moved.mean_entry m) s', ← Option.some.inj drew]
  exact congrArg some (add_assoc ..).symm

theorem mixes_translated {estimated estimated' current current' : Gaussian ℝ} (w : ℝ)
    (fitted : Translated shift estimated estimated') (good : Translated shift current current') :
    Option.Rel (Translated shift) (mix? w estimated current) (mix? w estimated' current') := by
  obtain ⟨mean, mixed, means, entries⟩ :=
    Tensor.mix?_of_shape_eq w (fitted.shaped.mean.trans good.shaped.mean.symm)
  obtain ⟨mean', mixed', means', entries'⟩ :=
    Tensor.mix?_of_shape_eq w (fitted.shaped'.mean.trans good.shaped'.mean.symm)
  obtain ⟨stddev, spread, stddevs, -⟩ :=
    Tensor.mix?_of_shape_eq w (fitted.shaped.stddev.trans good.shaped.stddev.symm)
  have spread' : mix? w estimated'.stddev current'.stddev = some stddev := by rw [fitted.stddev, good.stddev, spread]
  rw [mix?_of_parts mixed spread, mix?_of_parts mixed' spread']
  have shape := means.trans good.shaped.mean
  have shape' := means'.trans good.shaped'.mean
  refine .some ⟨⟨shape, stddevs.trans good.shaped.stddev⟩, Tensor.eq_translate (shape'.trans shape.symm) ?_, rfl⟩
  intro i z mixture
  obtain ⟨inside, -⟩ := Tensor.getElem?_eq_some_iff.1 mixture
  have inside : shift.shape.InBounds i := shape ▸ inside
  have x : estimated.mean[i]? = some _ := dif_pos (fitted.shaped.mean.symm ▸ inside)
  have y : current.mean[i]? = some _ := dif_pos (good.shaped.mean.symm ▸ inside)
  rw [entries x y] at mixture
  rw [entries' (fitted.mean_entry x) (good.mean_entry y), ← Option.some.inj mixture]
  refine congrArg some ?_
  ring

theorem fits_translated {elite elite' : Tensor ℝ} {n : Nat} (layout : elite.shape = (n + 1) :: shift.shape)
    (related : elite.RowWise shift.shape (SampleTranslated shift) elite') :
    ∃ fitted fitted', fit? elite = some fitted ∧ fit? elite' = some fitted' ∧ Translated shift fitted fitted' := by
  obtain ⟨fitted, fits, shaped, entries⟩ := entries_of_fit? layout
  obtain ⟨fitted', fits', shaped', entries'⟩ := entries_of_fit? (related.shape.trans layout)
  have lane (i : List Nat) : elite'.lane 0 i = (elite.lane 0 i).map (· + shift[i]?.getD 0) := by
    refine related.lane fun {x y} related => ?_
    rw [related.moved, Tensor.getElem?_translate]
  refine ⟨fitted, fitted', fits, fits', shaped, ?_, ?_⟩
  · refine Tensor.eq_translate (shaped'.mean.trans shaped.mean.symm) fun {i x} estimate => ?_
    obtain ⟨inside, -⟩ := Tensor.getElem?_eq_some_iff.1 estimate
    have inside : shift.shape.InBounds i := shaped.mean ▸ inside
    have reduced : Shape.InBounds (elite.shape.eraseIdx 0) i := layout.symm ▸ inside
    have some : elite.lane 0 i ≠ [] := by
      refine List.ne_nil_of_length_pos ?_
      rw [Tensor.length_lane reduced, Tensor.extent_zero layout]
      exact n.succ_pos
    rw [(entries inside).1] at estimate
    rw [(entries' inside).1, lane, mean_map_add some, Option.some.inj estimate]
  · refine Tensor.ext_getElem? (shaped'.stddev.trans shaped.stddev.symm) fun {i} inside => ?_
    have inside : shift.shape.InBounds i := shaped.stddev ▸ inside
    rw [(entries inside).2, (entries' inside).2, lane, variance_map_add]

variable [Variates ℝ G]

theorem equivariant_of_translation (shift : Tensor ℝ) :
    Equivariant ℝ (generator (S := S) (G := G)) (estimator (σ := σ)) (Translated shift) shift.shape
      (SampleTranslated shift) where
  draws {s t} matched rng memory := by
    have count : t.settings.numSamples = s.settings.numSamples := by rw [matched.rest]
    obtain ⟨batch, batch', rng', drawn, drawn', related⟩ :=
      batches_translated matched.params s.settings.numSamples rng
    rw [← count] at drawn'
    rw [generator_of_sample drawn, generator_of_sample drawn']
    exact ⟨.ok related, rfl⟩
  fits {elite elite' s t} related matched memory := by
    rcases size : elite.extent 0 with _ | n
    · have size' : elite'.extent 0 = 0 := (related.extent 0).trans size
      simp only [estimator, fit?_of_empty size, fit?_of_empty size', Option.getD_none]
      exact ⟨.ok matched.params, rfl⟩
    · obtain ⟨fitted, fitted', fits, fits', moved⟩ := fits_translated (size ▸ related.layout) related
      simp only [estimator, fits, fits', Option.getD_some]
      exact ⟨.ok moved, rfl⟩
  mixes smoothing _ _ _ _ := mixes_translated smoothing.weight

end Gaussian

theorem Problem.translated_matches {p : Problem (Gaussian ℝ) ℝ S G σ} {shift : Tensor ℝ}
    (shaped : p.params.Shaped shift.shape) :
    p.session.Matches (Gaussian.Translated shift) (fun x y => y = x.translate shift)
      (p.translated shift).session := by
  refine ⟨⟨⟨shaped, rfl, rfl⟩, rfl⟩, rfl, rfl, ?_⟩
  change Option.Rel _ p.session.bestSample (p.session.bestSample.map (·.translate shift))
  cases p.session.bestSample with
  | none => exact .none
  | some best => exact .some rfl

theorem runs_of_translated [Score S] [Variates ℝ G] {p : Problem (Gaussian ℝ) ℝ S G σ} {shift : Tensor ℝ}
    (default : p.strategies.Default ℝ Gaussian.generator Gaussian.estimator) (shaped : p.params.Shaped shift.shape) :
    p.InTandem (p.translated shift) (Gaussian.Translated shift) shift.shape (Gaussian.SampleTranslated shift)
      (fun x y => y = x.translate shift) := by
  have scores : Option.Rel (fun f g => ∀ x y, Gaussian.SampleTranslated shift x y → g y = f x) p.strategies.scorer
      (p.strategies.scorer.map (·.translated shift)) := by
    cases p.strategies.scorer with
    | none => exact .none
    | some f =>
        refine .some fun x y related => ?_
        funext memory
        change f (y.translate (shift.map (-·))) memory = f x memory
        rw [related.moved, Tensor.translate_neg]
  exact (Gaussian.equivariant_of_translation shift).inTandem default scores Gaussian.SampleTranslated.moved
    (Problem.translated_matches shaped)

/-- Searches a line for its lowest point, which is at minus infinity, and smooths by one half. -/
noncomputable def descent : Problem (Gaussian ℝ) ℝ EReal Alternating Unit where
  strategies :=
    { Gaussian.strategies with
      scorer := some fun x memory => (.ok ((x[([] : List Nat)]?.getD 0 : ℝ) : EReal), memory)
      updater := some Categorical.half.updater }
  session :=
    { state :=
        { State.initial ⟨.scalar 0, .scalar 1⟩ with
          settings := { numSamples := 3, numElite := 2, maxIters := some 4, trackBest := true } }
      rng := ⟨true⟩
      memory := ()
      bestSample := none }

theorem Best.exists_sample_seeAll {α : Type} [Score S] {best : Best α S} {x : Tensor α} (known : best.sample = some x)
    (track : Bool) (scored : List (Tensor α × S)) : ∃ y, (best.seeAll track scored).sample = some y := by
  induction scored generalizing best x with
  | nil => exact ⟨x, known⟩
  | cons pair scored ih =>
      rw [seeAll_cons, see]
      split
      · exact ih rfl
      · exact ih known

/-- Any first sample is better than none, so it has been kept, or one better than it. -/
theorem descent_selects : ∃ batch scores elite chosen u last x,
    Iteration.Selects descent.strategies descent.fresh batch scores elite chosen u last ∧ u.bestSample = some x := by
  have shaped : descent.params.Shaped [] := ⟨rfl, rfl⟩
  obtain ⟨batch, sampled, layout, -⟩ := Gaussian.entries_of_sample shaped 3 descent.fresh.rng
  have drawn : Iteration.Draws descent.strategies (descent.fresh.withScores none none) batch _ :=
    .intro rfl (Gaussian.generator_of_sample sampled) (Tensor.extent_zero layout)
  have three : batch.rows.length = 3 := batch.length_rows.trans drawn.sized
  obtain ⟨x, y, z, rows⟩ := List.length_eq_three.1 three
  let score (x : Tensor ℝ) : EReal := ((x[([] : List Nat)]?.getD 0 : ℝ) : EReal)
  have all : Scores (fun x memory => (.ok (score x), memory)) () batch.rows [score x, score y, score z] () :=
    rows ▸ .cons rfl rfl (.cons rfl rfl (.cons rfl rfl .nil))
  obtain ⟨elite, chosen, u, last, selects⟩ := Iteration.exists_selects rfl drawn rfl all
  have first : descent.fresh.best.see true (x, score x) = ⟨score x, some x⟩ := if_pos ⟨rfl, EReal.coe_lt_top _⟩
  obtain ⟨best, kept⟩ := Best.exists_sample_seeAll (congrArg Best.sample first) true [(y, score y), (z, score z)]
  refine ⟨batch, _, elite, chosen, u, last, best, selects, ?_⟩
  have seen := selects.best
  rw [rows] at seen
  exact (congrArg Best.sample seen).trans kept

theorem runs_of_descent :
    descent.params.Shaped (Tensor.scalar (-1 : ℝ)).shape ∧
      (∃ out out', descent.solve 4 = some out ∧ (descent.translated (.scalar (-1))).solve 4 = some out' ∧
        out.ending = out'.ending ∧
        out'.session.state.params.mean = out.session.state.params.mean.translate (.scalar (-1)) ∧
        out'.session.state.params.stddev = out.session.state.params.stddev ∧
        Option.Rel (fun x y => y = x.translate (.scalar (-1))) out.session.bestSample out'.session.bestSample) ∧
      ∃ batch batch' scores elite chosen chosen' u v last last' x,
        Iteration.Selects descent.strategies descent.fresh batch scores elite chosen u last ∧
        Iteration.Selects (descent.translated (.scalar (-1))).strategies (descent.translated (.scalar (-1))).fresh
          batch' scores elite chosen' v last' ∧
        u.bestSample = some x ∧ v.bestSample = some (x.translate (.scalar (-1))) := by
  have shaped : descent.params.Shaped (Tensor.scalar (-1 : ℝ)).shape := ⟨rfl, rfl⟩
  have tandem := runs_of_translated (p := descent) ⟨rfl, rfl, .inr ⟨Categorical.half, rfl⟩, rfl⟩ shaped
  refine ⟨shaped, ?_, ?_⟩
  · cases tandem.lockstep 4 with
    | ended made made' alike =>
        have matched := alike.session
        exact ⟨_, _, made, made', alike.ending.eq, matched.state.params.mean, matched.state.params.stddev,
          matched.bestSample⟩
    | goesOn proceeds => exact absurd (Problem.proceeds_below (p := descent) rfl rfl rfl proceeds) (by decide)
  · obtain ⟨batch, scores, elite, chosen, u, last, x, selects, best⟩ := descent_selects
    obtain ⟨batch', chosen', v, last', selects', -, -, matched⟩ := tandem.selects rfl .refl .refl selects
    have moved := matched.bestSample
    rw [best] at moved
    generalize kept : v.bestSample = best' at moved
    cases moved with
    | some moved =>
        exact ⟨batch, batch', scores, elite, chosen, chosen', u, v, last, last', x, selects, selects', best,
          kept.trans (congrArg some moved)⟩

end CrossEntropy
