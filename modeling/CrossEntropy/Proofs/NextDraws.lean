import CrossEntropy.Family.Strategies
import CrossEntropy.Proofs.SubscriptPicks

namespace CrossEntropy
variable {R G : Type}

def SparesGenerator {ε α : Type} (sample : G → Except ε α × G) : Prop :=
  ∀ g e, (sample g).1 = .error e → (sample g).2 = g

theorem SparesGenerator.map {ε α β : Type} {sample : G → Except ε α × G} (spares : SparesGenerator sample) (f : α → β) :
    SparesGenerator fun g => ((sample g).1.map f, (sample g).2) := by
  intro g e failed
  cases drawn : (sample g).1 with
  | error e => exact spares g e drawn
  | ok x =>
      simp only [drawn] at failed
      cases failed

structure RefusesUnlike (subject : String) (left right : Shape) (sample : G → Except ShapeMismatch (Tensor R) × G) :
    Prop where
  error : ∀ g e, (sample g).1 = .error e ↔ left ≠ right ∧ e = ⟨subject, left, right⟩
  spares : SparesGenerator sample

theorem refusesUnlike_of_check {subject : String} {left right : Shape}
    {sample : G → Except ShapeMismatch (Tensor R) × G}
    (drawn : left = right → ∀ g, ∃ batch, (sample g).1 = .ok batch)
    (refused : left ≠ right → ∀ g, sample g = (.error ⟨subject, left, right⟩, g)) :
    RefusesUnlike subject left right sample := by
  by_cases same : left = right
  · refine ⟨fun g e => ?_, fun g e failed => ?_⟩
    · obtain ⟨batch, drawn⟩ := drawn same g
      simp [drawn, same]
    · obtain ⟨batch, drawn⟩ := drawn same g
      cases drawn.symm.trans failed
  · refine ⟨fun g e => ?_, fun g e _ => ?_⟩
    · simp [refused same, same, eq_comm]
    · rw [refused same]

variable [Scalar R] [Variates R G]

namespace Tensor
variable {a cdf : Tensor R} {axis n : Nat} {g : G}

/-- Sampling along an axis with a generator, next to sampling by given draws: the axis and its length are checked
before the first draw, and then there is one draw for each lane. -/
structure FedByDraws (a : Tensor R) (axis : Nat) (sampleWith : Tensor R → Except PickError (Tensor Nat))
    (sample : G → Except PickError (Tensor Nat) × G) : Prop where
  error : ∀ g e, (sample g).1 = .error e ↔
    (a.rank ≤ axis ∧ e = .axisOutOfRange axis a.rank) ∨ (a.shape[axis]? = some 0 ∧ e = .emptyAxis axis)
  spares : SparesGenerator sample
  fed : ∀ {n}, a.shape[axis]? = some (n + 1) → ∀ g, ∃ count draws picked,
    count = Shape.size (a.shape.eraseIdx axis) ∧ (0 ∈ a.shape.eraseIdx axis → count = 0) ∧
      draws.shape = a.shape.eraseIdx axis ∧ draws.toList = (drawMany Variates.uniform count g).1 ∧
      sampleWith draws = .ok picked ∧ sample g = (.ok picked, (drawMany (Variates.uniform (R := R)) count g).2)

theorem pickCdf_of_refused {e : PickError} (refused : cdf.checkAxis axis = .error e) (g : G) :
    cdf.pickCdf axis g = (.error e, g) := by
  rw [pickCdf, refused]

theorem exists_pickCdf (extent : cdf.shape[axis]? = some (n + 1)) (g : G) :
    ∃ picked, cdf.pickCdfWith axis (fill (cdf.shape.eraseIdx axis) (Variates.uniform (R := R)) g).1 = .ok picked ∧
      cdf.pickCdf axis g =
        (.ok picked, (drawMany (Variates.uniform (R := R)) (Shape.size (cdf.shape.eraseIdx axis)) g).2) := by
  have fits : (fill (cdf.shape.eraseIdx axis) (Variates.uniform (R := R)) g).1.shape = cdf.shape.eraseIdx axis := rfl
  obtain ⟨picked, sampled, -⟩ := exists_picked extent fits
  refine ⟨picked, sampled, ?_⟩
  rw [pickCdf, checkAxis_of_extent extent]
  exact Prod.ext sampled rfl

theorem fedByDraws_pickCdf (shape : cdf.shape = a.shape) (axis : Nat) :
    a.FedByDraws axis (cdf.pickCdfWith axis) (cdf.pickCdf (G := G) axis) := by
  refine ⟨fun g e => ?_, fun g e refused => ?_, fun {n} extent g => ?_⟩
  -- Either the check refuses the axis, and nothing is drawn, or the picks succeed whatever is drawn.
  · rw [rank, ← shape, ← checkAxis_eq_error_iff]
    rcases cdf.refused_or_extent axis with ⟨e', refused⟩ | ⟨n, extent⟩
    · rw [pickCdf_of_refused refused, refused, Except.error.injEq, Except.error.injEq]
    · obtain ⟨picked, -, sampled⟩ := exists_pickCdf extent g
      rw [sampled, checkAxis_of_extent extent]
      simp
  · rcases cdf.refused_or_extent axis with ⟨e', refused⟩ | ⟨n, extent⟩
    · rw [pickCdf_of_refused refused]
    · obtain ⟨picked, -, sampled⟩ := exists_pickCdf extent g
      rw [sampled] at refused
      cases refused
  · rw [← shape] at extent ⊢
    obtain ⟨picked, given, sampled⟩ := exists_pickCdf extent g
    exact ⟨_, _, picked, rfl, Shape.size_of_zero_mem, rfl, rfl, given, sampled⟩

theorem fedByDraws_pickPmf (a : Tensor R) (axis : Nat) :
    a.FedByDraws axis (a.pickPmfWith axis) (a.pickPmf (G := G) axis) := by
  have shape : (a.cumsum axis).shape = a.shape := rfl
  exact fedByDraws_pickCdf shape axis

end Tensor

theorem Gaussian.sample_refusesUnlike (p : Gaussian R) (count : Nat) :
    RefusesUnlike "mean and stddev" p.mean.shape p.stddev.shape (p.sample (G := G) count) :=
  refusesUnlike_of_check (fun same _ => ⟨_, by rw [sample, dif_pos same]⟩) fun other _ => dif_neg other

theorem Beta.sample_refusesUnlike (p : Beta R) (count : Nat) :
    RefusesUnlike "alpha and beta" p.alpha.shape p.beta.shape (p.sample (G := G) count) :=
  refusesUnlike_of_check (fun same _ => ⟨_, by rw [sample, if_pos same]⟩) fun other _ => if_neg other

namespace Categorical
variable {p : Tensor R} {rows columns count : Nat}

theorem sample_sparesGenerator (p : Tensor R) (count : Nat) : SparesGenerator (sample (G := G) p count) := by
  by_cases none : count = 0
  · intro g e _
    rw [sample, if_pos none]
  · have drawn (g : G) : sample p count g =
        (((p.tile [1, 1, count]).pickPmf 0 g).1.map Tensor.transpose, ((p.tile [1, 1, count]).pickPmf 0 g).2) := by
      rw [sample, if_neg none]
    rw [funext drawn]
    exact ((p.tile [1, 1, count]).fedByDraws_pickPmf 0).spares.map Tensor.transpose

theorem sample_eq_error_iff (shape : p.shape = [rows, columns]) (count : Nat) (g : G) (e : PickError) :
    (sample p count g).1 = .error e ↔ rows = 0 ∧ 0 < count ∧ e = .emptyAxis 0 := by
  rcases sampled_or_valueless shape count g with ⟨valued, samples, g', drawn, -⟩ | ⟨valueless, refused⟩
  · rw [drawn, ← and_assoc]
    simp [valued]
  · rw [refused, ← and_assoc]
    simp [valueless, eq_comm]

theorem generate_sparesGenerator (shape : p.shape = [rows, columns]) (count : Nat) :
    SparesGenerator (generate (G := G) p count) := by
  intro g e failed
  rcases sampled_or_valueless shape count g with ⟨-, samples, g', drawn, layout⟩ | ⟨-, refused⟩
  · rw [generate_of_sample drawn layout] at failed
    cases failed
  · rw [generate_of_refused refused]

end Categorical

theorem samplers_take_next_draws (R G : Type) [Scalar R] [Variates R G] :
    (∀ (a : Tensor R) (axis : Nat), a.FedByDraws axis (a.pickCdfWith axis) (a.pickCdf (G := G) axis) ∧
      a.FedByDraws axis (a.pickPmfWith axis) (a.pickPmf (G := G) axis)) ∧
    (∀ (a : Tensor R) (g : G), ∃ draw, (drawMany Variates.uniform 1 g).1 = [draw] ∧
      a.pickSubscript g = (a.pickSubscriptWith draw, (drawMany (Variates.uniform (R := R)) 1 g).2) ∧
      (a.toList ≠ [] → ∃ i, a.pickSubscriptWith draw = .ok i)) ∧
    (∀ (p : Gaussian R) (count : Nat),
      RefusesUnlike "mean and stddev" p.mean.shape p.stddev.shape (p.sample (G := G) count)) ∧
    (∀ (p : Beta R) (count : Nat),
      RefusesUnlike "alpha and beta" p.alpha.shape p.beta.shape (p.sample (G := G) count)) ∧
    (∀ (p : Tensor R) (count : Nat), SparesGenerator (Categorical.sample (G := G) p count) ∧
      ∀ {rows columns : Nat}, p.shape = [rows, columns] → ∀ (g : G) (e : PickError),
        (Categorical.sample p count g).1 = .error e ↔ rows = 0 ∧ 0 < count ∧ e = .emptyAxis 0) ∧
    ∀ {p : Tensor R} {rows columns : Nat}, p.shape = [rows, columns] → ∀ count : Nat,
      SparesGenerator (Categorical.generate (G := G) p count) ∧ ∀ (g : G) (e : SampleError),
        (Categorical.generate p count g).1 = .error e ↔ rows = 0 ∧ 0 < count ∧ e = .pick (.emptyAxis 0) := by
  refine ⟨fun a axis => ⟨Tensor.fedByDraws_pickCdf rfl axis, a.fedByDraws_pickPmf axis⟩, fun a g => ?_,
    Gaussian.sample_refusesUnlike, Beta.sample_refusesUnlike, fun p count =>
    ⟨Categorical.sample_sparesGenerator p count, fun shape g e => Categorical.sample_eq_error_iff shape count g e⟩,
    fun shape count =>
      ⟨Categorical.generate_sparesGenerator shape count, Categorical.generate_eq_error_iff shape count⟩⟩
  refine ⟨_, rfl, rfl, fun some => ?_⟩
  have pos : 0 < a.shape.size := Nat.pos_of_ne_zero fun none => some (Tensor.toList_eq_nil_iff.2 none)
  obtain ⟨-, k, -, -, picked⟩ := Tensor.exists_pickSubscriptWith pos (Variates.uniform (R := R) g).1
  exact ⟨_, picked⟩

end CrossEntropy
