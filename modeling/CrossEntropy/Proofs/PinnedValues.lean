import CrossEntropy.Proofs.InversionLaw

/-!
In exact arithmetic a value without probability never comes back. A draw from the unit interval picks only
values with probability (`pos_of_firstExceeding`), so the elite has no such value, and neither the fit nor the
mixture gives it a share (`closed_excludes`). So it stays away for life, and a variable that is certain of one
value remains so (`pinned_of_leads`).
-/

namespace CrossEntropy
open Finset Iteration

theorem pos_of_firstExceeding {f : Nat → ℝ} {n : Nat} {draw : ℝ} (nonneg : 0 ≤ draw)
    (below : draw < ∑ v ∈ range n, f v) : 0 < f (firstExceeding (runningSums ((List.range n).map f)) draw) := by
  have some : 0 < n := Nat.pos_of_ne_zero fun none => by
    subst none
    exact absurd (sum_range_zero f ▸ below) (not_lt.2 nonneg)
  have pick := isPick_firstExceeding some (runningSum f) draw
  rw [runningSums_range]
  generalize firstExceeding ((List.range n).map (runningSum f)) draw = k at pick ⊢
  -- the mass before the index does not exceed the draw but the mass through it does, so it rises at the index
  have reached := pick.massBefore_le nonneg
  have exceeds := pick.lt_massBefore below
  rw [massBefore_succ] at exceeds
  exact pos_of_lt_add_right (reached.trans_lt exceeds)

namespace Categorical
variable {G σ : Type} {p : Tensor ℝ} {rows columns v j k : Nat}

theorem Stochastic.zero_of_one (stochastic : Stochastic rows columns p) (one : p[[v, j]]? = some 1) (hk : k < rows)
    (other : k ≠ v) : p[[k, j]]? = some 0 := by
  obtain ⟨hv, hj⟩ := lt_of_getElem?_eq_some stochastic.shape one
  obtain ⟨f, entries, total⟩ := stochastic.column j hj
  have whole : f v = 1 := Option.some.inj ((entries v hv).1.symm.trans one)
  have rest : ∑ i ∈ (range rows).erase v, f i = 0 := by
    have split := add_sum_erase (range rows) f (mem_range.2 hv)
    rw [whole, total] at split
    exact left_eq_add.1 split.symm
  have nonneg : ∀ i ∈ (range rows).erase v, 0 ≤ f i :=
    fun i hi => (entries i (mem_range.1 (mem_of_mem_erase hi))).2
  have none := (sum_eq_zero_iff_of_nonneg nonneg).1 rest k (mem_erase.2 ⟨other, mem_range.2 hk⟩)
  rw [(entries k hk).1, none]

theorem Stochastic.one_of_zeros (stochastic : Stochastic rows columns p) (hv : v < rows) (hj : j < columns)
    (zeros : ∀ k < rows, k ≠ v → p[[k, j]]? = some 0) : p[[v, j]]? = some 1 := by
  obtain ⟨f, entries, total⟩ := stochastic.column j hj
  have only : ∑ i ∈ range rows, f i = f v :=
    sum_eq_single_of_mem v (mem_range.2 hv) fun k hk other =>
      Option.some.inj ((entries k (mem_range.1 hk)).1.symm.trans (zeros k (mem_range.1 hk) other))
  rw [(entries v hv).1, ← only, total]

structure Excludes (rows columns v j : Nat) (p : Tensor ℝ) : Prop where
  stochastic : Stochastic rows columns p
  zero : p[[v, j]]? = some 0

structure Avoids (rows columns v j : Nat) (row : Tensor Nat) : Prop where
  assignment : Assignment rows columns row
  other : row.toList[j]? ≠ some v

theorem Excludes.lt (excludes : Excludes rows columns v j p) : v < rows ∧ j < columns :=
  lt_of_getElem?_eq_some excludes.stochastic.shape excludes.zero

theorem Excludes.avoids (excludes : Excludes rows columns v j p) {draw : ℝ} (nonneg : 0 ≤ draw) (below : draw < 1) :
    v ≠ firstExceeding (runningSums (p.lane 0 [j])) draw := by
  obtain ⟨hv, hj⟩ := excludes.lt
  obtain ⟨f, entries, total⟩ := excludes.stochastic.column j hj
  have height : p.extent 0 = rows := Tensor.extent_zero excludes.stochastic.shape
  have lane : p.lane 0 [j] = (List.range rows).map f := by
    rw [← height]
    exact Tensor.lane_of_entries fun c hc => (entries c (height ▸ hc)).1
  have none : f v = 0 := Option.some.inj ((entries v hv).1.symm.trans excludes.zero)
  rintro picked
  have pos := pos_of_firstExceeding (f := f) nonneg (total.symm ▸ below)
  rw [← lane, ← picked, none] at pos
  exact lt_irrefl _ pos

theorem zero_of_fit {elite : Tensor Nat} {fitted : Tensor ℝ} {n : Nat} (shape : elite.shape = [n + 1, columns])
    (avoid : ∀ row ∈ elite.rows, Avoids rows columns v j row) (hv : v < rows) (hj : j < columns)
    (fits : fit elite rows = .ok fitted) : fitted[[v, j]]? = some 0 := by
  obtain ⟨fitted', fits', -, shares⟩ :=
    exists_fit (R := ℝ) shape fun row member => (avoid row member).assignment.known
  obtain rfl : fitted = fitted' := Except.ok.inj (fits.symm.trans fits')
  have none : elite.rows.countP (fun row => row.toList[j]? = some v) = 0 :=
    List.countP_eq_zero.2 fun row member found => (avoid row member).other (of_decide_eq_true found)
  rw [shares hv hj, none, Tensor.addOnes, zero_div]

variable [Variates ℝ G]

theorem closed_excludes (hv : v < rows)
    (unit : ∀ g : G, 0 ≤ (Variates.uniform (R := ℝ) g).1 ∧ (Variates.uniform (R := ℝ) g).1 < 1) :
    Closed ℝ (generator (G := G)) (estimator (σ := σ)) (Excludes rows columns v j) [columns]
      (Avoids rows columns v j) := by
  have pos : 0 < rows := Nat.zero_lt_of_lt hv
  refine (closed_stochastic pos).narrow Excludes.stochastic Avoids.assignment ?_ ?_ ?_
  · intro s rng rng' memory memory' batch good returned row member assignment
    refine ⟨assignment, fun found => ?_⟩
    obtain ⟨batch', _, drawn, layout, values⟩ := exists_sample good.stochastic.shape pos s.settings.numSamples rng
    have again := returned.symm.trans (generator_of_sample drawn layout)
    obtain rfl := Except.ok.inj (Prod.mk.inj again).1
    obtain ⟨-, g, picked⟩ := values row member found
    exact good.avoids (unit g).1 (unit g).2 picked
  · intro s elite n memory memory' estimated good shaped avoid returned
    have assigned : ∀ row ∈ elite.rows, Assignment rows columns row :=
      fun row member => (avoid row member).assignment
    have fits := fit_of_estimator good.stochastic.shape returned
    exact ⟨stochastic_of_fit shaped assigned fits, zero_of_fit shaped avoid good.lt.1 good.lt.2 fits⟩
  · intro smoothing estimated current params fitted good mixed
    obtain ⟨-, entries⟩ := Tensor.entries_of_mix? mixed (fitted.stochastic.shape.trans good.stochastic.shape.symm)
    refine ⟨fitted.stochastic.mix smoothing.nonneg smoothing.le_one good.stochastic mixed, ?_⟩
    rw [entries fitted.zero good.zero, mul_zero, mul_zero, add_zero]

theorem pinned_of_leads {p : Problem (Tensor ℝ) Nat Float G σ}
    (unit : ∀ g : G, 0 ≤ (Variates.uniform (R := ℝ) g).1 ∧ (Variates.uniform (R := ℝ) g).1 < 1)
    (standard : p.strategies.Standard ℝ generator estimator) (initial : Stochastic rows columns p.params)
    {m later : Moment (Tensor ℝ) Nat Float G σ}
    (before : Moment.Leads (Strategies.Standard ℝ generator estimator) ⟨p, .idle⟩ m)
    (after : Moment.Leads (Strategies.Standard ℝ generator estimator) m later) (hv : v < rows) :
    (m.problem.params[[v, j]]? = some 0 →
      later.problem.params[[v, j]]? = some 0 ∧
        ∀ {batch t journal},
          (clearScores >>= fun _ => draw later.problem.strategies) later.problem.session = (.ok batch, t, journal) →
          ∀ row ∈ batch.rows, row.toList[j]? ≠ some v) ∧
    (m.problem.params[[v, j]]? = some 1 → ∀ k < rows, later.problem.params[[k, j]]? = m.problem.params[[k, j]]?) := by
  have keeps : Moment.Keeps (Strategies.Standard ℝ generator estimator) (Stochastic rows columns) :=
    (closed_stochastic (G := G) (σ := σ) (Nat.zero_lt_of_lt hv)).keeps
  have here := (Moment.Sound.idle standard initial).leads keeps before
  have there := here.leads keeps after
  have stays {k : Nat} (hk : k < rows) (zero : m.problem.params[[k, j]]? = some 0) :
      Moment.Sound (Strategies.Standard ℝ generator estimator) (Excludes rows columns k j) later :=
    Moment.Sound.leads ⟨here.strategies, here.valid, here.params, zero⟩ (closed_excludes hk unit).keeps after
  constructor
  · intro zero
    have excluded := stays hv zero
    have unscored : Excludes rows columns v j (later.problem.session.withScores none none).state.params :=
      excluded.params
    refine ⟨excluded.params.zero, fun drawn row member => ?_⟩
    have drawn := draws_of_draw ((Stage.change_bind_apply _ _).symm.trans drawn)
    obtain ⟨-, avoid, -⟩ := (closed_excludes hv unit).drawn excluded.strategies unscored drawn
    exact (avoid row member).other
  · intro one k hk
    obtain ⟨-, hj⟩ := lt_of_getElem?_eq_some here.params.shape one
    have zeros : ∀ i < rows, i ≠ v → later.problem.params[[i, j]]? = some 0 := fun i hi other =>
      (stays hi (here.params.zero_of_one one hi other)).params.zero
    by_cases same : k = v
    · rw [same, one]
      exact there.params.one_of_zeros hv hj zeros
    · rw [zeros k hk same, here.params.zero_of_one one hk same]

theorem pinned_of_tosses :
    Stochastic 2 2 coins ∧ coins[[1, 0]]? = some 0 ∧ coins[[0, 0]]? = some 1 ∧
      ∃ out, tosses.solve 4 = some out ∧
        out.session.state.params[[1, 0]]? = some 0 ∧
        (∀ {batch t journal},
          (clearScores >>= fun _ => draw tosses.strategies) out.session = (.ok batch, t, journal) →
          ∀ row ∈ batch.rows, row.toList[0]? ≠ some 1) ∧
        out.session.state.params[[0, 0]]? = some 1 := by
  obtain ⟨out, made⟩ := Problem.exists_outcome (p := tosses) (m := 4) rfl rfl .silent ()
  have made : tosses.solveUnder .silent () 4 = some out := made 4 (by decide)
  have unit (g : Alternating) : 0 ≤ (Variates.uniform (R := ℝ) g).1 ∧ (Variates.uniform (R := ℝ) g).1 < 1 := by
    change 0 ≤ (if g.low then 1 / 4 else 3 / 4 : ℝ) ∧ (if g.low then 1 / 4 else 3 / 4 : ℝ) < 1
    split <;> norm_num
  have zero : coins[[1, 0]]? = some 0 := rfl
  have one : coins[[0, 0]]? = some 1 := rfl
  have after : Moment.Leads (Strategies.Standard ℝ generator estimator) ⟨tosses, .idle⟩
      ⟨{ tosses with session := out.session }, .idle⟩ := Moment.leads_of_solveUnder made
  have standard : tosses.strategies.Standard ℝ generator estimator := ⟨rfl, rfl, .inr ⟨half, rfl⟩⟩
  have none := (pinned_of_leads unit standard stochastic_coins .refl after Nat.one_lt_two).1 zero
  have all := (pinned_of_leads unit standard stochastic_coins .refl after Nat.two_pos).2 one
  exact ⟨stochastic_coins, zero, one, out, made, none.1, none.2, (all 0 Nat.two_pos).trans one⟩

end Categorical
end CrossEntropy
