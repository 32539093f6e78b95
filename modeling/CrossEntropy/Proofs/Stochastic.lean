import CrossEntropy.Proofs.ExactArithmetic
import CrossEntropy.Proofs.FamilyRuns

namespace CrossEntropy
namespace Categorical
open Finset

structure Stochastic (rows columns : Nat) (p : Tensor ℝ) : Prop where
  shape : p.shape = [rows, columns]
  column : ∀ j < columns, ∃ f : Nat → ℝ,
    (∀ v < rows, p[[v, j]]? = some (f v) ∧ 0 ≤ f v) ∧ ∑ v ∈ range rows, f v = 1

variable {G σ : Type} {p estimated current params : Tensor ℝ} {rows columns v j : Nat} {x : ℝ}

theorem lt_of_getElem?_eq_some (shape : p.shape = [rows, columns]) (found : p[[v, j]]? = some x) :
    v < rows ∧ j < columns := by
  obtain ⟨bound, -⟩ := Tensor.getElem?_eq_some_iff.1 found
  rw [shape] at bound
  exact ⟨bound.1, bound.2.1⟩

theorem exists_entry_of_mem (shape : p.shape = [rows, columns]) (member : x ∈ p.toList) :
    ∃ v < rows, ∃ j < columns, p[[v, j]]? = some x := by
  obtain ⟨i, found⟩ := Tensor.exists_of_mem_toList member
  obtain ⟨bound, -⟩ := Tensor.getElem?_eq_some_iff.1 found
  rw [shape] at bound
  obtain ⟨v, j, rfl, hv, hj⟩ := bound.exists_pair
  exact ⟨v, hv, j, hj, found⟩

theorem Stochastic.mem_unit (stochastic : Stochastic rows columns p) (member : x ∈ p.toList) : 0 ≤ x ∧ x ≤ 1 := by
  obtain ⟨v, hv, j, hj, found⟩ := exists_entry_of_mem stochastic.shape member
  obtain ⟨f, entries, total⟩ := stochastic.column j hj
  obtain ⟨entry, nonneg⟩ := entries v hv
  obtain rfl : x = f v := Option.some.inj (found.symm.trans entry)
  have le := single_le_sum (fun k hk => (entries k (mem_range.1 hk)).2) (mem_range.2 hv)
  exact ⟨nonneg, total ▸ le⟩

theorem Stochastic.mix {w : ℝ} (nonneg : 0 ≤ w) (le_one : w ≤ 1) (fitted : Stochastic rows columns estimated)
    (good : Stochastic rows columns current) (mixed : mix? w estimated current = some params) :
    Stochastic rows columns params := by
  obtain ⟨shape, entries⟩ := Tensor.entries_of_mix? mixed (fitted.shape.trans good.shape.symm)
  refine ⟨shape.trans good.shape, fun j hj => ?_⟩
  obtain ⟨f, hf, totalf⟩ := fitted.column j hj
  obtain ⟨g, hg, totalg⟩ := good.column j hj
  refine ⟨fun v => w * f v + (1 - w) * g v, fun v hv => ⟨entries (hf v hv).1 (hg v hv).1, ?_⟩, ?_⟩
  · have := mul_nonneg nonneg (hf v hv).2
    have := mul_nonneg (sub_nonneg.2 le_one) (hg v hv).2
    positivity
  · rw [sum_add_distrib, ← mul_sum, ← mul_sum, totalf, totalg]
    ring

theorem sum_countP {α : Type} {f : α → Option Nat} {xs : List α} {n : Nat}
    (known : ∀ x ∈ xs, ∃ v < n, f x = some v) : ∑ v ∈ range n, xs.countP (f · = some v) = xs.length := by
  induction xs with
  | nil => simp
  | cons x xs ih =>
      obtain ⟨v, hv, value⟩ := known x (.head _)
      simp only [List.countP_cons, sum_add_distrib, ih fun y member => known y (.tail _ member), value,
        Option.some.injEq, decide_eq_true_eq, sum_ite_eq, mem_range, if_pos hv, List.length_cons]

theorem stochastic_of_fit {elite : Tensor Nat} {fitted : Tensor ℝ} {n : Nat}
    (shape : elite.shape = [n + 1, columns]) (known : ∀ row ∈ elite.rows, Assignment rows columns row)
    (fits : fit elite rows = .ok fitted) :
    Stochastic rows columns fitted := by
  obtain ⟨fitted', fits', layout, shares⟩ := exists_fit (R := ℝ) shape fun row member => (known row member).known
  obtain rfl : fitted = fitted' := Except.ok.inj (fits.symm.trans fits')
  refine ⟨layout, fun j hj => ?_⟩
  -- each elite sample has one value in the column and so adds one to one of the counts
  have value : ∀ row ∈ elite.rows, ∃ v < rows, row.toList[j]? = some v :=
    fun row member => (known row member).exists_value hj
  have count : elite.rows.length = n + 1 := elite.length_rows.trans (Tensor.extent_zero shape)
  have total := sum_countP value
  refine ⟨_, fun v hv => ⟨shares hv hj, ?_⟩, ?_⟩
  · rw [Tensor.addOnes_eq, zero_add]
    positivity
  · simp only [Tensor.addOnes_eq, zero_add]
    rw [← sum_div, ← Nat.cast_sum, total, count]
    exact div_self (Nat.cast_ne_zero.2 n.succ_ne_zero)

theorem fit_of_estimator {S : Type} {elite : Tensor Nat} {s : State (Tensor ℝ) S} {memory memory' : σ}
    (shape : s.params.shape = [rows, columns]) (returned : estimator elite s memory = (.ok estimated, memory')) :
    fit elite rows = .ok estimated := by
  have height : numValues s.params = rows := Tensor.extent_zero shape
  exact height ▸ eq_ok_of_mapError (Prod.mk.inj returned).1

variable [Variates ℝ G]

theorem closed_stochastic (pos : 0 < rows) :
    Closed ℝ (generator (G := G)) (estimator (σ := σ)) (Stochastic rows columns) [columns]
      (Assignment rows columns) := by
  refine (closed_shapes pos).narrow Stochastic.shape id (fun _ _ _ _ row => row) ?_ ?_
  · intro s elite n memory memory' estimated good shaped known returned
    exact stochastic_of_fit shaped known (fit_of_estimator good.shape returned)
  · intro smoothing estimated current params fitted good mixed
    exact fitted.mix smoothing.nonneg smoothing.le_one good mixed

theorem stochastic_of_leads {p : Problem (Tensor ℝ) Nat Float G σ} (pos : 0 < rows)
    (standard : p.strategies.Standard ℝ generator estimator) (initial : Stochastic rows columns p.params) :
    (∀ {m : Moment (Tensor ℝ) Nat Float G σ},
      Moment.Leads (Strategies.Standard ℝ generator estimator) ⟨p, .idle⟩ m →
      Stochastic rows columns m.problem.params ∧ ∀ x ∈ m.problem.params.toList, 0 ≤ x ∧ x ≤ 1) ∧
    ∀ {q : Problem (Tensor ℝ) Nat Float G σ} {ω : Type} {observer : Observer (Tensor ℝ) Float ω} {watcher : ω}
      {limit : Nat} {out : Outcome (Tensor ℝ) Nat Float G σ ω (Except SolveError Ending)},
      Moment.Leads (Strategies.Standard ℝ generator estimator) ⟨p, .idle⟩ ⟨q, .idle⟩ →
      q.solveUnder observer watcher limit = some out →
      Stochastic rows columns out.session.state.params ∧ ∀ x ∈ out.session.state.params.toList, 0 ≤ x ∧ x ≤ 1 := by
  have life {m : Moment (Tensor ℝ) Nat Float G σ}
      (leads : Moment.Leads (Strategies.Standard ℝ generator estimator) ⟨p, .idle⟩ m) :
      Stochastic rows columns m.problem.params ∧ ∀ x ∈ m.problem.params.toList, 0 ≤ x ∧ x ≤ 1 := by
    have sound := (Moment.Sound.idle standard initial).leads (closed_stochastic pos).keeps leads
    exact ⟨sound.params, fun x => sound.params.mem_unit⟩
  exact ⟨life, fun leads made => life (leads.trans (Moment.leads_of_solveUnder made))⟩

end Categorical

/-- A source whose uniform variates are one quarter and three quarters in turn. -/
structure Alternating where
  low : Bool

noncomputable instance alternatingVariates : Variates ℝ Alternating where
  uniform g := (if g.low then 1 / 4 else 3 / 4, ⟨!g.low⟩)
  openUniform g := (if g.low then 1 / 4 else 3 / 4, ⟨!g.low⟩)
  normal g := (if g.low then -1 else 1, ⟨!g.low⟩)
  gamma shape g := (shape, g)

namespace Categorical

noncomputable def coins : Tensor ℝ := ⟨[2, 2], #[1, 1 / 2, 0, 1 / 2], rfl⟩

theorem stochastic_coins : Stochastic 2 2 coins := by
  refine ⟨rfl, fun j hj => ?_⟩
  match j, hj with
  | 0, _ =>
      refine ⟨fun v => if v = 0 then 1 else 0, fun v hv => ?_, by simp⟩
      match v, hv with
      | 0, _ => exact ⟨rfl, zero_le_one⟩
      | 1, _ => exact ⟨rfl, le_refl 0⟩
  | 1, _ =>
      refine ⟨fun _ => 1 / 2, fun v hv => ⟨?_, by norm_num⟩, by norm_num⟩
      match v, hv with
      | 0, _ => rfl
      | 1, _ => rfl

noncomputable def half : Smoothing ℝ := ⟨1 / 2, by norm_num, by norm_num⟩

noncomputable def tosses : Problem (Tensor ℝ) Nat Float Alternating Unit :=
  indifferent { Categorical.strategies with updater := some half.updater } coins ⟨true⟩

theorem stochastic_of_tosses :
    0 < 2 ∧ Stochastic 2 2 coins ∧
      ∃ out, tosses.solve 4 = some out ∧ Stochastic 2 2 out.session.state.params ∧
        ∀ x ∈ out.session.state.params.toList, 0 ≤ x ∧ x ≤ 1 := by
  obtain ⟨out, made⟩ := Problem.exists_outcome (p := tosses) (m := 4) rfl rfl .silent ()
  have made : tosses.solveUnder .silent () 4 = some out := made 4 (by decide)
  have standard : tosses.strategies.Standard ℝ generator estimator := ⟨rfl, rfl, .inr ⟨half, rfl⟩⟩
  have kept := (stochastic_of_leads Nat.two_pos standard stochastic_coins).2 .refl made
  exact ⟨Nat.two_pos, stochastic_coins, out, made, kept⟩

end Categorical
end CrossEntropy
