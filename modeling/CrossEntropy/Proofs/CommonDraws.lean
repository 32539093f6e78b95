import CrossEntropy.Proofs.Stochastic

namespace CrossEntropy
variable {P α S R G σ τ ω β : Type}

namespace Journal

def batches (journal : Journal P α S) : List (State P S) :=
  journal.filterMap fun | .generate shown => some shown | _ => none

theorem batches_append (first rest : Journal P α S) : batches (first ++ rest) = batches first ++ batches rest :=
  List.filterMap_append ..

theorem batches_scoring [Score S] (track : Bool) (best : Best α S) (index : Nat) (scored : List (Tensor α × S)) :
    batches (scoring (P := P) track best index scored) = [] := by
  rw [batches, filterMap_scoring fun _ => rfl]
  simp [scoreCalls]

end Journal

namespace Iteration
variable [Score S] {strategies : Strategies P α S G σ} {s t u : Session P α S G σ} {batch : Tensor α}
  {journal : Journal P α S}

theorem Course.rng {result : Except SolveError (Event P S)} (course : Course strategies s result t journal)
    (drawn : Draws strategies (s.withScores none none) batch u) : t.rng = u.rng := by
  have same {batch' : Tensor α} {u' : Session P α S G σ}
      (drawn' : Draws strategies (s.withScores none none) batch' u') : u' = u := by
    cases (draw_of_draws drawn').symm.trans (draw_of_draws drawn)
    rfl
  have selecting {batch chosen : Tensor α} {scores : List S} {elite : Elite S} {v : Session P α S G σ}
      {journal : Journal P α S} (selects : Selects strategies s batch scores elite chosen v journal) :
      v.rng = u.rng := by
    cases selects with
    | intro drawn' =>
        obtain rfl := same drawn'
        rfl
  have estimating {chosen : Tensor α} {estimated : P} {v w : Session P α S G σ}
      (estimates : Estimates strategies v chosen estimated w) : w.rng = v.rng := by
    cases estimates
    rfl
  cases course with
  | undrawn fails => cases (draw_of_drawFails fails).symm.trans (draw_of_draws drawn)
  | unscored drawn' fails =>
      obtain rfl := same drawn'
      cases fails <;> rfl
  | unestimated selects fails =>
      rw [← selecting selects]
      cases fails <;> rfl
  | unupdated selects estimates fails =>
      rw [← selecting selects, ← estimating estimates]
      cases fails
      rfl
  | completed selects estimates updates =>
      rw [← selecting selects, ← estimating estimates]
      cases updates <;> rfl

theorem Selects.batches {batch chosen : Tensor α} {scores : List S} {elite : Elite S}
    (h : Selects strategies s batch scores elite chosen t journal) : journal.batches.length = 1 := by
  cases h
  exact congrArg (List.length <| _ :: ·) (Journal.batches_scoring ..)

theorem Course.batches {result : Except SolveError (Event P S)} (course : Course strategies s result t journal)
    (drawn : Draws strategies (s.withScores none none) batch u) : journal.batches.length = 1 := by
  cases course with
  | undrawn fails => cases (draw_of_drawFails fails).symm.trans (draw_of_draws drawn)
  | unscored _ fails =>
      cases fails with
      | missing => rfl
      | @rejected _ index _ _ _ _ _ _ inside =>
          change (_ :: Journal.batches (_ ++ [Entry.score index (Tensor.row _ index inside) _])).length = 1
          rw [Journal.batches_append, scoring, Journal.batches_scoring]
          rfl
  | unestimated selects fails =>
      rw [Journal.batches_append, List.length_append, selects.batches]
      cases fails <;> rfl
  | unupdated selects estimates fails =>
      rw [Journal.batches_append, List.length_append, selects.batches]
      cases fails
      rfl
  | completed selects estimates updates =>
      rw [Journal.batches_append, List.length_append, selects.batches]
      cases updates <;> rfl

end Iteration

theorem Step.batches [Score S] {strategies : Strategies P α S G σ} {observer : Observer P S ω}
    {s u : Session P α S G σ} {watcher : ω} {batch : Tensor α}
    {made : Outcome P α S G σ ω (Option (Except SolveError Ending))} (h : Step strategies observer s watcher made)
    (drawn : Iteration.Draws strategies (s.withScores none none) batch u) : made.journal.batches.length = 1 := by
  have answered (journal : Journal P α S) (event : Event P S) (verdict : Verdict) (notes : List (LogRecord S)) :
      (reported journal event verdict notes).batches = journal.batches := by
    rw [reported, Journal.batches_append]
    exact (congrArg (_ ++ ·) (Journal.filterMap_map_log (fun _ => rfl) notes)).trans (List.append_nil _)
  have decided {t v : Session P α S G σ} {stop : Bool} {last : Journal P α S}
      (decides : Decides strategies t stop v last) : last.batches = [] := by
    cases decides <;> rfl
  cases h with
  | fails course => exact course.batches drawn
  | undecided course =>
      rw [answered]
      exact course.batches drawn
  | stopped course =>
      rw [Journal.batches_append, answered]
      exact (congrArg List.length (List.append_nil _)).trans (course.batches drawn)
  | ends course _ decides =>
      rw [Journal.batches_append, Journal.batches_append, answered, decided decides, List.append_nil]
      exact (congrArg List.length (List.append_nil _)).trans (course.batches drawn)
  | goesOn course _ decides =>
      rw [Journal.batches_append, answered, decided decides, List.append_nil]
      exact course.batches drawn

namespace Moment
variable [Score S] {allowed : Strategies P α S G σ → Prop} {count : Nat}

open Iteration in
/-- A part of a life in which nobody replaces the random generator and all batches have one size. It goes with
the batches drawn, each behind the parameters at the time. -/
inductive Stretch (allowed : Strategies P α S G σ → Prop) (count : Nat) :
    Moment P α S G σ → List (P × Tensor α) → Moment P α S G σ → Prop
  | refl {m} : Stretch allowed count m [] m
  | between {m next later drawn} (idle : m.phase = .idle) (first : Next allowed m next)
      (kept : next.problem.session.rng = m.problem.session.rng) (rest : Stretch allowed count next drawn later) :
      Stretch allowed count m drawn later
  | iteration {p : Problem P α S G σ} {ω : Type} {observer : Observer P S ω} {watcher : ω} {batch t journal}
      {next later drawn} (sized : p.settings.numSamples = count)
      (draws : (clearScores >>= fun _ => draw p.strategies) p.session = (.ok batch, t, journal))
      (first : Next allowed ⟨p, .running observer watcher⟩ next) (rest : Stretch allowed count next drawn later) :
      Stretch allowed count ⟨p, .running observer watcher⟩ ((p.params, batch) :: drawn) later

theorem Stretch.trans {m next later : Moment P α S G σ} {drawn drawn' : List (P × Tensor α)}
    (h : Stretch allowed count m drawn next) (rest : Stretch allowed count next drawn' later) :
    Stretch allowed count m (drawn ++ drawn') later := by
  induction h with
  | refl => exact rest
  | between idle first kept _ ih => exact .between idle first kept (ih rest)
  | iteration sized draws first _ ih => exact .iteration sized draws first (ih rest)

end Moment

/-- From parameters of a kind, and for batches of this size, the generator makes one draw, and the batch is
made of what was drawn. -/
def Generator.Draws (generator : Generator P α S G σ) (kind : P → Prop) (count : Nat) (draw : G → β × G)
    (made : β → P × Tensor α → Prop) : Prop :=
  ∀ {s : State P S} (rng : G) (memory : σ), kind s.params → s.settings.numSamples = count →
    ∃ batch, generator s rng memory = (.ok batch, (draw rng).2, memory) ∧ made (draw rng).1 (s.params, batch)

section Stretches
variable [Scalar R] [Mix R P] {generator : Generator P α Float G σ} {estimator : Estimator P α Float σ}
  {kind : P → Prop} {shape : Shape} {sample : Tensor α → Prop} {count : Nat} {draw : G → β × G}
  {made : β → P × Tensor α → Prop}

section Runs
variable {p : Problem P α Float G σ} {observer : Observer P Float ω} {watcher watcher' : ω}
  {s t : Session P α Float G σ} {n limit : Nat} {journal : Journal P α Float}

theorem Moment.stretch_of_step (closed : Closed R generator estimator kind shape sample)
    (sound : Moment.Sound (Strategies.Standard R generator estimator) kind
      ⟨{ p with session := s }, .running observer watcher⟩)
    {made : Outcome P α Float G σ ω (Option (Except SolveError Ending))}
    (step : Step p.strategies observer s watcher made) {next : Moment P α Float G σ}
    (first : Moment.Next (Strategies.Standard R generator estimator)
      ⟨{ p with session := s }, .running observer watcher⟩ next) :
    ∃ batch, Moment.Stretch (Strategies.Standard R generator estimator) s.state.settings.numSamples
        ⟨{ p with session := s }, .running observer watcher⟩ [(s.state.params, batch)] next ∧
      made.journal.batches.length = 1 := by
  obtain ⟨batch, u, drawn⟩ := closed.exists_draws (s := s.withScores none none) sound.strategies sound.params
  exact ⟨batch, .iteration rfl (Iteration.draw_of_draws drawn) first .refl, step.batches drawn⟩

theorem Moment.stretch_of_proceeds (closed : Closed R generator estimator kind shape sample)
    (sound : Moment.Sound (Strategies.Standard R generator estimator) kind
      ⟨{ p with session := s }, .running observer watcher⟩)
    (h : Proceeds p.strategies observer n s watcher t watcher' journal) :
    ∃ drawn, Moment.Stretch (Strategies.Standard R generator estimator) s.state.settings.numSamples
        ⟨{ p with session := s }, .running observer watcher⟩ drawn
        ⟨{ p with session := t }, .running observer watcher'⟩ ∧
      drawn.length = n ∧ journal.batches.length = n := by
  induction h with
  | refl => exact ⟨[], .refl, rfl, rfl⟩
  | @next n s u t watcher between watcher' journal later first rest ih =>
      have step := (step_eq_iff (sound.valid (by simp))).1 first
      have next : Moment.Next (Strategies.Standard R generator estimator)
          ⟨{ p with session := s }, .running observer watcher⟩
          ⟨{ p with session := u }, .running observer between⟩ := .goesOn (p := { p with session := s }) first
      obtain ⟨batch, drew, one⟩ := Moment.stretch_of_step closed sound step next
      have settings : u.state.settings = s.state.settings := step.settings
      obtain ⟨drawn, again, count, shown⟩ := ih (sound.next closed.keeps next)
      refine ⟨_ :: drawn, drew.trans (settings ▸ again), congrArg Nat.succ count, ?_⟩
      have one : journal.batches.length = 1 := one
      rw [Journal.batches_append, List.length_append, one, shown, Nat.add_comm]

theorem Moment.stretch_of_solveUnder (closed : Closed R generator estimator kind shape sample)
    (standard : p.strategies.Standard R generator estimator) (good : kind p.params)
    (valid : p.settings.validate = .ok ()) {out : Outcome P α Float G σ ω (Except SolveError Ending)}
    (made : p.solveUnder observer watcher limit = some out) :
    ∃ drawn, Moment.Stretch (Strategies.Standard R generator estimator) p.settings.numSamples ⟨p, .idle⟩ drawn
        ⟨{ p with session := out.session }, .idle⟩ ∧
      drawn.length = out.journal.batches.length ∧ 0 < drawn.length ∧ drawn.length ≤ limit := by
  rw [Problem.solveUnder_of_valid valid] at made
  obtain ⟨n, t, watcher', journal, last, lt, proceeds, ended, eq⟩ := runWithin_eq_some_iff.1 made
  have starts : Moment.Next (Strategies.Standard R generator estimator) ⟨p, .idle⟩
      ⟨{ p with session := p.fresh }, .running observer watcher⟩ := .starts valid
  have fresh := (Moment.Sound.idle standard good).next closed.keeps starts
  obtain ⟨drawn, stretch, count, shown⟩ := Moment.stretch_of_proceeds closed fresh proceeds
  have settings : t.state.settings = p.settings := proceeds.settings valid
  have here : Moment.Sound (Strategies.Standard R generator estimator) kind
      ⟨{ p with session := t }, .running observer watcher'⟩ :=
    fresh.leads closed.keeps (Moment.leads_of_proceeds proceeds)
  have step := (step_eq_iff (settings ▸ valid)).1 ended
  obtain ⟨batch, drew, one⟩ := Moment.stretch_of_step closed here step (.ends (p := { p with session := t }) ended)
  refine ⟨drawn ++ [_], .between rfl starts rfl (stretch.trans (settings ▸ drew)), ?_⟩
  have one : last.batches.length = 1 := one
  rw [List.length_append, List.length_singleton, count, eq, Journal.batches_append, List.length_append, shown, one]
  exact ⟨rfl, Nat.succ_pos n, lt⟩

end Runs

theorem Moment.Stretch.made_of (closed : Closed R generator estimator kind shape sample)
    (draws : generator.Draws kind count draw made) {m later : Moment P α Float G σ} {drawn : List (P × Tensor α)}
    (sound : Moment.Sound (Strategies.Standard R generator estimator) kind m)
    (h : Moment.Stretch (Strategies.Standard R generator estimator) count m drawn later) :
    later.problem.session.rng = (drawMany draw drawn.length m.problem.session.rng).2 ∧
      List.Forall₂ made (drawMany draw drawn.length m.problem.session.rng).1 drawn := by
  induction h with
  | refl => exact ⟨rfl, .nil⟩
  | between _ first kept _ ih => exact kept ▸ ih (sound.next closed.keeps first)
  | @iteration p _ _ _ batch t _ next later drawn sized drew first _ ih =>
      obtain ⟨_, u, _, course, -, rng⟩ := first.course (sound.valid (by simp))
      have drew := Iteration.draws_of_draw (s := p.session.withScores none none) drew
      have left := course.rng drew
      have again := ih (sound.next closed.keeps first)
      cases drew with
      | intro installed returned =>
          obtain rfl := Option.some.inj (sound.strategies.generator.symm.trans installed)
          obtain ⟨batch', returned', makes⟩ :=
            draws (s := (p.session.withScores none none).state) p.session.rng p.session.memory sound.params sized
          obtain ⟨ok, rest⟩ := Prod.mk.inj (returned.symm.trans returned')
          obtain ⟨used, -⟩ := Prod.mk.inj rest
          obtain rfl := Except.ok.inj ok
          have rng : next.problem.session.rng = (draw p.session.rng).2 := rng.trans (left.trans used)
          rw [rng] at again
          exact ⟨again.1, .cons makes again.2⟩

theorem Moment.Stretch.common {estimator' : Estimator P α Float τ} {generator' : Generator P α Float G τ}
    {kind' : P → Prop} {shape' : Shape} {sample' : Tensor α → Prop}
    (closed : Closed R generator estimator kind shape sample) (draws : generator.Draws kind count draw made)
    (closed' : Closed R generator' estimator' kind' shape' sample') (draws' : generator'.Draws kind' count draw made)
    {p : Problem P α Float G σ} {q : Problem P α Float G τ} (standard : p.strategies.Standard R generator estimator)
    (standard' : q.strategies.Standard R generator' estimator') (good : kind p.params) (good' : kind' q.params)
    (same : q.session.rng = p.session.rng) {m : Moment P α Float G σ} {m' : Moment P α Float G τ}
    {drawn drawn' : List (P × Tensor α)}
    (h : Moment.Stretch (Strategies.Standard R generator estimator) count ⟨p, .idle⟩ drawn m)
    (h' : Moment.Stretch (Strategies.Standard R generator' estimator') count ⟨q, .idle⟩ drawn' m')
    (equal : drawn'.length = drawn.length) :
    m'.problem.session.rng = m.problem.session.rng ∧
      m.problem.session.rng = (drawMany draw drawn.length p.session.rng).2 ∧
      List.Forall₂ made (drawMany draw drawn.length p.session.rng).1 drawn ∧
      List.Forall₂ made (drawMany draw drawn.length p.session.rng).1 drawn' := by
  obtain ⟨rng, batches⟩ := h.made_of closed draws (.idle standard good)
  obtain ⟨rng', batches'⟩ := h'.made_of closed' draws' (.idle standard' good')
  rw [equal, same] at rng' batches'
  exact ⟨rng'.trans rng.symm, rng, batches, batches'⟩

end Stretches

variable [Scalar R] [Variates R G]

namespace Gaussian

structure Scaled (count : Nat) (shape : Shape) (normals : Tensor R) (drawn : Gaussian R × Tensor R) : Prop where
  used : normals.shape = count :: shape
  batch : drawn.2.shape = count :: shape
  entries : ∀ {k : Nat} {i : List Nat} {z mean stddev : R}, normals[k :: i]? = some z → drawn.1.mean[i]? = some mean →
    drawn.1.stddev[i]? = some stddev → drawn.2[k :: i]? = some (z * stddev + mean)

theorem draws_normals {S : Type} (count : Nat) (shape : Shape) :
    (generator : Generator (Gaussian R) R S G σ).Draws (Shaped shape) count
      (Tensor.fill (count :: shape) (Variates.normal (R := R))) (Scaled count shape) := by
  rintro s rng memory shaped rfl
  obtain ⟨batch, drawn, layout, entries⟩ := entries_of_sample shaped s.settings.numSamples rng
  refine ⟨batch, generator_of_sample drawn, rfl, layout, fun {k i z mean stddev} normal hm hs => ?_⟩
  obtain ⟨inside, -⟩ := Tensor.getElem?_eq_some_iff.1 normal
  rw [entries inside.1 hm hs, normal, Option.getD_some]

end Gaussian

namespace Categorical

structure Picked (count columns : Nat) (uniforms : List R) (drawn : Tensor R × Tensor Nat) : Prop where
  used : uniforms.length = count * columns
  batch : drawn.2.shape = [count, columns]
  entries : ∀ {i j : Nat}, i < count → j < columns → ∃ draw, uniforms[j * count + i]? = some draw ∧
    drawn.2[[i, j]]? = some (firstExceeding (runningSums (drawn.1.lane 0 [j])) draw)

theorem draws_uniforms {S : Type} {rows : Nat} (pos : 0 < rows) (count columns : Nat) :
    (generator : Generator (Tensor R) Nat S G σ).Draws (·.shape = [rows, columns]) count
      (drawMany (Variates.uniform (R := R)) (count * columns)) (Picked count columns) := by
  rintro s rng memory shape rfl
  rcases Nat.eq_zero_or_pos s.settings.numSamples with none | more
  · have drawn : sample s.params s.settings.numSamples rng = (.ok (.replicate [0, columns] 0), rng) := by
      rw [none, sample_of_zero shape]
    have layout : (Tensor.replicate [0, columns] 0).shape = [s.settings.numSamples, columns] := none ▸ rfl
    refine ⟨.replicate [0, columns] 0, (generator_of_sample drawn layout).trans ?_, ?_⟩
    · rw [none, Nat.zero_mul]
      rfl
    · rw [none, Nat.zero_mul]
      exact ⟨(Nat.zero_mul columns).symm, rfl, fun hi => absurd hi (Nat.not_lt_zero _)⟩
  · obtain ⟨batch, drawn, layout, entries⟩ := sample_of_pos shape pos more rng
    rw [Nat.mul_comm] at drawn
    refine ⟨batch, generator_of_sample drawn layout, length_drawMany .., layout, fun hi hj => ?_⟩
    rw [Nat.mul_comm s.settings.numSamples columns]
    exact entries hi hj

end Categorical

/-- Problems of one layout that start with the same random generator use the same draws, batch by batch. -/
theorem common_random_numbers {count : Nat} :
    (∀ {p : Problem (Gaussian R) R Float G σ} {q : Problem (Gaussian R) R Float G τ} {shape : Shape}
        {m : Moment (Gaussian R) R Float G σ} {m' : Moment (Gaussian R) R Float G τ} {drawn drawn'},
      p.strategies.Standard R Gaussian.generator Gaussian.estimator →
      q.strategies.Standard R Gaussian.generator Gaussian.estimator →
      p.params.Shaped shape → q.params.Shaped shape → q.session.rng = p.session.rng →
      Moment.Stretch (Strategies.Standard R Gaussian.generator Gaussian.estimator) count ⟨p, .idle⟩ drawn m →
      Moment.Stretch (Strategies.Standard R Gaussian.generator Gaussian.estimator) count ⟨q, .idle⟩ drawn' m' →
      drawn'.length = drawn.length →
      let used := drawMany (Tensor.fill (count :: shape) (Variates.normal (R := R))) drawn.length p.session.rng
      m'.problem.session.rng = m.problem.session.rng ∧ m.problem.session.rng = used.2 ∧
        List.Forall₂ (Gaussian.Scaled count shape) used.1 drawn ∧
        List.Forall₂ (Gaussian.Scaled count shape) used.1 drawn') ∧
    ∀ {p : Problem (Tensor R) Nat Float G σ} {q : Problem (Tensor R) Nat Float G τ} {rows rows' columns : Nat}
        {m : Moment (Tensor R) Nat Float G σ} {m' : Moment (Tensor R) Nat Float G τ} {drawn drawn'},
      p.strategies.Standard R Categorical.generator Categorical.estimator →
      q.strategies.Standard R Categorical.generator Categorical.estimator →
      p.params.shape = [rows, columns] → q.params.shape = [rows', columns] → 0 < rows → 0 < rows' →
      q.session.rng = p.session.rng →
      Moment.Stretch (Strategies.Standard R Categorical.generator Categorical.estimator) count ⟨p, .idle⟩ drawn m →
      Moment.Stretch (Strategies.Standard R Categorical.generator Categorical.estimator) count ⟨q, .idle⟩ drawn' m' →
      drawn'.length = drawn.length →
      let used :=
        drawMany (drawMany (Variates.uniform (R := R)) (count * columns)) drawn.length p.session.rng
      m'.problem.session.rng = m.problem.session.rng ∧ m.problem.session.rng = used.2 ∧
        List.Forall₂ (Categorical.Picked count columns) used.1 drawn ∧
        List.Forall₂ (Categorical.Picked count columns) used.1 drawn' :=
  ⟨fun standard standard' good good' same h h' equal =>
      h.common (Gaussian.closed_shapes _) (Gaussian.draws_normals count _) (Gaussian.closed_shapes _)
        (Gaussian.draws_normals count _) standard standard' good good' same h' equal,
    fun standard standard' good good' pos pos' same h h' equal =>
      h.common (Categorical.closed_shapes pos) (Categorical.draws_uniforms pos count _)
        (Categorical.closed_shapes pos') (Categorical.draws_uniforms pos' count _) standard standard' good good' same
        h' equal⟩

noncomputable def interrupted : Problem (Gaussian ℝ) ℝ Float Alternating Nat where
  strategies := { Gaussian.strategies with
    scorer := some fun _ calls => (if calls = 1 then .error (.custom "no score") else .ok 1.5, calls + 1)
    updater := some Categorical.half.updater }
  session :=
    { state := { State.initial ⟨.scalar 0, .scalar 1⟩ with
        settings := { numSamples := 1, numElite := 1, maxIters := some 3, trackBest := true } }
      rng := ⟨true⟩
      memory := 0
      bestSample := none }

theorem common_of_interrupted :
    let g : Alternating := ⟨true⟩
    let q : Problem (Gaussian ℝ) ℝ Float Alternating Unit :=
      (indifferent Gaussian.strategies ⟨.scalar 1, .scalar 1⟩ g).withSettings fun c =>
        { c with numSamples := 1, numElite := 1, maxIters := some 2 }
    let coins : Problem (Tensor ℝ) Nat Float Alternating Unit :=
      (indifferent Categorical.strategies Categorical.coins g).withSettings fun c =>
        { c with numElite := 1, maxIters := some 1 }
    let sure : Problem (Tensor ℝ) Nat Float Alternating Unit :=
      (indifferent Categorical.strategies (.replicate [1, 2] 1) g).withSettings fun c =>
        { c with maxIters := some 1, trackBest := true }
    (∃ out out', interrupted.solve 2 = some out ∧ q.solve 2 = some out' ∧ out.ending.toOption = none ∧
      out'.session.rng = out.session.rng) ∧
    ∃ out out', coins.solve 1 = some out ∧ sure.solve 1 = some out' ∧ out'.session.rng = out.session.rng ∧
      out.session.rng = (drawMany (Variates.uniform (R := ℝ)) (3 * 2) g).2 := by
  intro g q coins sure
  constructor
  · have two : (interrupted.solve 2).map (fun out => (out.ending.toOption.isNone, out.journal.batches.length)) =
        some (true, 2) := by decide +kernel
    have two' : (q.solve 2).map (fun out => out.journal.batches.length) = some 2 := by decide +kernel
    obtain ⟨out, solved, numbers⟩ := Option.map_eq_some_iff.1 two
    obtain ⟨out', solved', count'⟩ := Option.map_eq_some_iff.1 two'
    obtain ⟨failed, count⟩ := Prod.mk.inj numbers
    have standard : interrupted.strategies.Standard ℝ Gaussian.generator Gaussian.estimator :=
      ⟨rfl, rfl, .inr ⟨Categorical.half, rfl⟩⟩
    have standard' : q.strategies.Standard ℝ Gaussian.generator Gaussian.estimator := ⟨rfl, rfl, .inl rfl⟩
    have scalar : interrupted.params.Shaped [] := ⟨rfl, rfl⟩
    have scalar' : q.params.Shaped [] := ⟨rfl, rfl⟩
    obtain ⟨drawn, stretch, length, -⟩ :=
      Moment.stretch_of_solveUnder (Gaussian.closed_shapes []) standard scalar (by decide) solved
    obtain ⟨drawn', stretch', length', -⟩ :=
      Moment.stretch_of_solveUnder (Gaussian.closed_shapes []) standard' scalar' (by decide) solved'
    have equal : drawn'.length = drawn.length := by rw [length, length', count, count']
    obtain ⟨same, -⟩ :=
      common_random_numbers.1 standard standard' scalar scalar' rfl stretch stretch' equal
    exact ⟨out, out', solved, solved', Option.isNone_iff_eq_none.1 failed, same⟩
  · obtain ⟨out, ends⟩ := Problem.exists_outcome (p := coins) (m := 1) rfl rfl .silent ()
    obtain ⟨out', ends'⟩ := Problem.exists_outcome (p := sure) (m := 1) rfl rfl .silent ()
    have solved : coins.solve 1 = some out := ends 1 (by decide)
    have solved' : sure.solve 1 = some out' := ends' 1 (by decide)
    have standard : coins.strategies.Standard ℝ Categorical.generator Categorical.estimator := ⟨rfl, rfl, .inl rfl⟩
    have standard' : sure.strategies.Standard ℝ Categorical.generator Categorical.estimator := ⟨rfl, rfl, .inl rfl⟩
    have sides : coins.params.shape = [2, 2] := rfl
    have sides' : sure.params.shape = [1, 2] := rfl
    obtain ⟨drawn, stretch, -, some, one⟩ :=
      Moment.stretch_of_solveUnder (Categorical.closed_shapes Nat.two_pos) standard sides (by decide) solved
    obtain ⟨drawn', stretch', -, some', one'⟩ :=
      Moment.stretch_of_solveUnder (Categorical.closed_shapes Nat.one_pos) standard' sides' (by decide) solved'
    obtain ⟨same, used, -⟩ :=
      common_random_numbers.2 standard standard' sides sides' Nat.two_pos Nat.one_pos rfl stretch stretch' (by omega)
    have once : drawn.length = 1 := by omega
    rw [once] at used
    exact ⟨out, out', solved, solved', same, used⟩

end CrossEntropy
