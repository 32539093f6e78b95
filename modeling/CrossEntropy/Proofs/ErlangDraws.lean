import Mathlib
import CrossEntropy.Proofs.ExactArithmetic
import CrossEntropy.Proofs.SuccessiveBatches
import CrossEntropy.Proofs.WholeShapes

namespace CrossEntropy
variable {R G : Type}

theorem drawEach_congr {α π : Type} {draw : π → G → α × G} {ps qs : List π}
    (same : List.Forall₂ (fun p q => draw p = draw q) ps qs) : drawEach draw ps = drawEach draw qs := by
  induction same with
  | nil => rfl
  | cons first rest ih =>
      funext g
      rw [drawEach, drawEach, first, ih]

theorem forall_mem_drawEach {α π : Type} {draw : π → G → α × G} {P : α → Prop} (all : ∀ p g, P (draw p g).1)
    (ps : List π) (g : G) : ∀ x ∈ (drawEach draw ps g).1, P x := by
  induction ps generalizing g with
  | nil => exact fun _ member => nomatch member
  | cons p ps ih =>
      intro x member
      rcases List.mem_cons.1 member with rfl | later
      · exact all p g
      · exact ih _ x later

theorem Tensor.getElem?_toList_pair {α : Type} {a : Tensor α} {n m i j : Nat} (shape : a.shape = [n, m]) (hi : i < n)
    (hj : j < m) : a.toList[i * m + j]? = a[[i, j]]? := by
  have inside : Shape.InBounds [n, m] [i, j] := ⟨hi, hj, trivial⟩
  have place : Shape.offset [n, m] [i, j] = i * m + j := by simp [Shape.offset]
  rw [← place, getElem?_toList_offset shape inside, getElem?_eq, dif_pos (shape ▸ inside)]

theorem exists_flatten_replicate {α : Type} {i n : Nat} (h : i < n) (xs : List α) :
    ∃ more, (List.replicate n xs).flatten = (List.replicate i xs).flatten ++ (xs ++ more) := by
  refine ⟨(List.replicate (n - i - 1) xs).flatten, ?_⟩
  rw [← List.flatten_cons, ← List.replicate_succ, ← List.flatten_append, List.replicate_append_replicate]
  congr 2
  omega

theorem length_flatten_replicate {α : Type} (n : Nat) (xs : List α) :
    (List.replicate n xs).flatten.length = n * xs.length := by
  simp

namespace Beta
variable [Scalar R]

def exponentialSum (us : List R) : R := (us.map fun u => -Scalar.log u).foldl (· + ·) 0

/-- The variate that the first uniforms of a list make, `k` of them and then `l` of them. -/
def share (k l : Nat) (us : List R) : R :=
  let a := exponentialSum (us.take k)
  let b := exponentialSum ((us.drop k).take l)
  a / (a + b)

/-- The number of uniforms that variates of the given whole shapes take. -/
def uniforms : List (Nat × Nat) → Nat
  | [] => 0
  | (k, l) :: blocks => k + l + uniforms blocks

def shares : List (Nat × Nat) → List R → List R
  | [], _ => []
  | (k, l) :: blocks, us => share k l us :: shares blocks (us.drop (k + l))

theorem uniforms_append (blocks later : List (Nat × Nat)) :
    uniforms (blocks ++ later) = uniforms blocks + uniforms later := by
  induction blocks with
  | nil => simp [uniforms]
  | cons b blocks ih => simp [uniforms, ih, Nat.add_assoc]

theorem uniforms_replicate (n : Nat) (blocks : List (Nat × Nat)) :
    uniforms (List.replicate n blocks).flatten = n * uniforms blocks := by
  induction n with
  | zero => simp [uniforms]
  | succ n ih => simp [List.replicate_succ, uniforms_append, ih, Nat.succ_mul, Nat.add_comm]

theorem getElem?_replicate {blocks : List (Nat × Nat)} {n i j : Nat} (hi : i < n) (hj : j < blocks.length) :
    (List.replicate n blocks).flatten[i * blocks.length + j]? = blocks[j]? := by
  obtain ⟨more, cut⟩ := exists_flatten_replicate hi blocks
  rw [cut, ← length_flatten_replicate, List.getElem?_append_right (Nat.le_add_right ..), Nat.add_sub_cancel_left,
    List.getElem?_append_left hj]

theorem uniforms_take_replicate {blocks : List (Nat × Nat)} {n i j : Nat} (hi : i < n) (hj : j < blocks.length) :
    uniforms ((List.replicate n blocks).flatten.take (i * blocks.length + j)) =
      i * uniforms blocks + uniforms (blocks.take j) := by
  obtain ⟨more, cut⟩ := exists_flatten_replicate hi blocks
  rw [cut, ← length_flatten_replicate, List.take_length_add_append, List.take_append_of_le_length (Nat.le_of_lt hj),
    uniforms_append, uniforms_replicate]

theorem getElem?_shares (blocks : List (Nat × Nat)) (us : List R) (j : Nat) :
    (shares blocks us)[j]? = blocks[j]?.map fun b => share b.1 b.2 (us.drop (uniforms (blocks.take j))) := by
  induction blocks generalizing us j with
  | nil => rfl
  | cons b blocks ih =>
      cases j with
      | zero => rfl
      | succ j => simp [shares, ih, uniforms]

structure IsSum (x : R) (k : Nat) : Prop where
  small : wholeShape x ≤ sumLimit
  terms : Scalar.toNat (wholeShape x) = k

def AreSums : List (R × R) → List (Nat × Nat) → Prop := List.Forall₂ fun s b => IsSum s.1 b.1 ∧ IsSum s.2 b.2

variable [Variates R G] {x y : R} {k l : Nat}

theorem erlang_of_isSum (sum : IsSum x k) (g : G) :
    erlang x g =
      (exponentialSum (drawMany Variates.openUniform k g).1, (drawMany (Variates.openUniform (R := R)) k g).2) := by
  have drawn := drawMany_map (Variates.openUniform (R := R) (G := G)) (fun u => -Scalar.log u) k g
  simp only [erlang, if_pos sum.small, sum.terms]
  exact congrArg (fun d : List R × G => (d.1.foldl (· + ·) 0, d.2)) drawn

theorem variate_of_isSum (alpha : IsSum x k) (beta : IsSum y l) (g : G) (more : List R) :
    variate (x, y) g = (share k l ((drawMany Variates.openUniform (k + l) g).1 ++ more),
      (drawMany (Variates.openUniform (R := R)) (k + l) g).2) := by
  rw [share, drawMany_add, List.append_assoc, List.take_left' (length_drawMany ..),
    List.drop_left' (length_drawMany ..), List.take_left' (length_drawMany ..)]
  simp only [variate, erlang_of_isSum alpha, erlang_of_isSum beta]

theorem drawEach_of_areSums {ss : List (R × R)} {blocks : List (Nat × Nat)} (sums : AreSums ss blocks) (g : G) :
    drawEach variate ss g = (shares blocks (drawMany Variates.openUniform (uniforms blocks) g).1,
      (drawMany (Variates.openUniform (R := R)) (uniforms blocks) g).2) := by
  induction sums generalizing g with
  | nil => rfl
  | @cons s b ss blocks first rest ih =>
      -- The first variate is made of the first uniforms; those that are left are the uniforms of the others.
      have next := drawMany_add (Variates.openUniform (R := R)) (b.1 + b.2) (uniforms blocks) g
      have one := variate_of_isSum first.1 first.2 g
        (drawMany Variates.openUniform (uniforms blocks) (drawMany (Variates.openUniform (R := R)) (b.1 + b.2) g).2).1
      simp only [drawEach, one, ih, uniforms, next, shares, List.drop_left' (length_drawMany ..)]

theorem AreSums.replicate {ss : List (R × R)} {blocks : List (Nat × Nat)} (sums : AreSums ss blocks) (n : Nat) :
    AreSums (List.replicate n ss).flatten (List.replicate n blocks).flatten := by
  induction n with
  | zero => exact .nil
  | succ n ih => exact List.rel_append sums ih

theorem exists_batch_of_areSums {p : Beta R} {width : Nat} {blocks : List (Nat × Nat)} (shaped : p.Shaped width)
    (sums : AreSums p.shapes blocks) (count : Nat) (g : G) : ∃ batch,
    p.sample count g = (.ok batch, (drawMany (Variates.openUniform (R := R)) (count * uniforms blocks) g).2) ∧
      batch.shape = [count, width] ∧ ∀ {i j k l : Nat}, i < count → blocks[j]? = some (k, l) →
        batch[[i, j]]? = some (share k l ((drawMany Variates.openUniform (count * uniforms blocks) g).1.drop
          (i * uniforms blocks + uniforms (blocks.take j)))) := by
  obtain ⟨batch, drawn, sized, entries⟩ := exists_sample shaped count g
  rw [drawEach_of_areSums (sums.replicate count), uniforms_replicate] at drawn entries
  refine ⟨batch, drawn, sized, fun {i j k l} hi here => ?_⟩
  have width_eq : blocks.length = width := by rw [← sums.length_eq, length_shapes shaped]
  obtain ⟨hj, -⟩ := List.getElem?_eq_some_iff.1 here
  rw [← Tensor.getElem?_toList_pair sized hi (width_eq ▸ hj), entries, getElem?_shares, ← width_eq,
    getElem?_replicate hi hj, here, Option.map_some, uniforms_take_replicate hi hj]

theorem isSum_of_wholeNumber {x : Float} {k : Nat} (whole : wholeNumber x = k) (small : k ≤ 64) : IsSum x k := by
  have pos : 0 < k := by
    have least := one_le_wholeNumber x
    rw [whole] at least
    exact_mod_cast least
  obtain ⟨below, terms⟩ := wholeDouble_of_small k (Nat.lt_succ_of_le small) pos
  rw [← whole, ← wholeShape_eq] at below terms
  exact ⟨below, terms⟩

def wholeNumbers (p : Beta Float) : List (ℕ∞ × ℕ∞) := p.shapes.map (Prod.map wholeNumber wholeNumber)

theorem areSums_of_wholeNumbers {ss : List (Float × Float)} {blocks : List (Nat × Nat)}
    (whole : ss.map (Prod.map wholeNumber wholeNumber) = blocks.map (Prod.map Nat.cast Nat.cast))
    (small : ∀ b ∈ blocks, b.1 ≤ 64 ∧ b.2 ≤ 64) : AreSums ss blocks := by
  induction ss generalizing blocks with
  | nil =>
      rw [List.map_nil, eq_comm, List.map_eq_nil_iff] at whole
      exact whole ▸ .nil
  | cons s ss ih =>
      cases blocks with
      | nil => cases whole
      | cons b blocks =>
          obtain ⟨first, rest⟩ := List.cons.inj whole
          obtain ⟨alpha, beta⟩ := Prod.mk.inj first
          obtain ⟨hk, hl⟩ := small b (List.mem_cons_self ..)
          exact .cons ⟨isSum_of_wholeNumber alpha hk, isSum_of_wholeNumber beta hl⟩
            (ih rest fun b member => small b (List.mem_cons_of_mem _ member))

section Doubles
variable {p q : Beta Float} {width : Nat} [Variates Float G]

theorem erlang_eq_of_wholeNumber {x y : Float} (same : wholeNumber x = wholeNumber y) :
    (erlang x : G → Float × G) = erlang y := by
  unfold erlang
  rw [wholeShape_eq, wholeShape_eq, same]

theorem variate_eq_of_wholeNumbers {s t : Float × Float}
    (same : Prod.map wholeNumber wholeNumber s = Prod.map wholeNumber wholeNumber t) :
    (variate s : G → Float × G) = variate t := by
  obtain ⟨alpha, beta⟩ := Prod.mk.inj same
  unfold variate
  rw [erlang_eq_of_wholeNumber alpha, erlang_eq_of_wholeNumber beta]

theorem sample_eq_of_wholeNumbers (hp : p.Shaped width) (hq : q.Shaped width) (same : p.wholeNumbers = q.wholeNumbers)
    (count : Nat) (g : G) : p.sample count g = q.sample count g := by
  obtain ⟨batch, drawn, sized, entries⟩ := exists_sample hp count g
  obtain ⟨batch', drawn', sized', entries'⟩ := exists_sample hq count g
  have matching : List.Forall₂ (· = ·) p.wholeNumbers q.wholeNumbers := by
    rw [same]
    exact List.forall₂_refl _
  have rows : drawEach (variate (G := G)) p.shapes = drawEach variate q.shapes := by
    apply drawEach_congr
    exact (List.forall₂_map_left_iff.1 (List.forall₂_map_right_iff.1 matching)).imp
      fun _ _ => variate_eq_of_wholeNumbers
  rw [drawEach_replicate, rows, ← drawEach_replicate] at drawn entries
  rw [drawn, drawn', Tensor.ext (sized.trans sized'.symm) (Array.toList_inj.1 (entries.trans entries'.symm))]

end Doubles

section Exact
variable [Variates ℝ G]

theorem foldl_add_pos {xs : List ℝ} {a : ℝ} (start : 0 < a) (pos : ∀ x ∈ xs, 0 < x) : 0 < xs.foldl (· + ·) a := by
  induction xs generalizing a with
  | nil => exact start
  | cons x xs ih =>
      have first := pos x (List.mem_cons_self ..)
      exact ih (add_pos start first) fun y member => pos y (List.mem_cons_of_mem _ member)

theorem exponentialSum_pos {us : List ℝ} (some : us ≠ []) (inside : ∀ u ∈ us, 0 < u ∧ u < 1) :
    0 < exponentialSum us := by
  have pos : ∀ u ∈ us, 0 < -Real.log u := fun u member =>
    neg_pos.2 (Real.log_neg (inside u member).1 (inside u member).2)
  cases us with
  | nil => exact absurd rfl some
  | cons u us =>
      have first : 0 < 0 + -Real.log u := (zero_add (-Real.log u)).symm ▸ pos u (List.mem_cons_self ..)
      change 0 < (us.map fun u => -Real.log u).foldl (· + ·) (0 + -Real.log u)
      refine foldl_add_pos first fun x member => ?_
      obtain ⟨v, later, rfl⟩ := List.mem_map.1 member
      exact pos v (List.mem_cons_of_mem _ later)

theorem one_le_wholeShape (x : ℝ) : 1 ≤ wholeShape x := by
  rw [wholeShape]
  split
  · rename_i high
    exact le_of_lt high
  · exact le_rfl

/-- Uniforms between zero and one, and positive Gamma variates for the shapes that are not sums. -/
structure Proper (G : Type) [Variates ℝ G] : Prop where
  uniform : ∀ g : G, 0 < (Variates.openUniform (R := ℝ) g).1 ∧ (Variates.openUniform (R := ℝ) g).1 < 1
  gamma : ∀ {k : ℝ} (g : G), 64 < k → 0 < (Variates.gamma k g).1

theorem erlang_pos (proper : Proper G) (x : ℝ) (g : G) : 0 < (erlang x g).1 := by
  by_cases small : wholeShape x ≤ sumLimit
  · rw [erlang_of_isSum ⟨small, rfl⟩]
    apply exponentialSum_pos
    · have terms : 0 < Scalar.toNat (wholeShape x) := Nat.floor_pos.2 (one_le_wholeShape x)
      rw [← List.length_pos_iff, length_drawMany]
      exact terms
    · intro u member
      obtain ⟨g', rfl⟩ := exists_draw_of_mem_drawMany member
      exact proper.uniform g'
  · have large : erlang x g = Variates.gamma (wholeShape x) g := if_neg small
    rw [large]
    exact proper.gamma g (not_le.1 small)

theorem variate_inside (proper : Proper G) (s : ℝ × ℝ) (g : G) : 0 < (variate s g).1 ∧ (variate s g).1 < 1 := by
  have a := erlang_pos proper s.1 g
  have b := erlang_pos proper s.2 (erlang s.1 g).2
  have total := add_pos a b
  exact ⟨div_pos a total, (div_lt_one total).2 (lt_add_of_pos_right _ b)⟩

end Exact

end Beta

/-- Samples of doubles depend on the shapes through their whole numbers only. If these are no more than 64, a batch
takes as many uniforms as they add up to, and every sample is made of its own ones, which stand one after the other in
the order of the batch. In exact arithmetic all samples are between zero and one. -/
theorem beta_draws_of_whole_shapes :
    (∀ {G : Type} [Variates Float G] {p : Beta Float} {width : Nat}, p.Shaped width →
      (∀ {q : Beta Float}, q.Shaped width → p.wholeNumbers = q.wholeNumbers →
        ∀ (count : Nat) (g : G), p.sample count g = q.sample count g) ∧
      ∀ {blocks : List (Nat × Nat)}, p.wholeNumbers = blocks.map (Prod.map Nat.cast Nat.cast) →
        (∀ b ∈ blocks, b.1 ≤ 64 ∧ b.2 ≤ 64) → ∀ (count : Nat) (g : G),
        let used := drawMany (Variates.openUniform (R := Float)) (count * Beta.uniforms blocks) g
        ∃ batch, p.sample count g = (.ok batch, used.2) ∧ batch.shape = [count, width] ∧
          ∀ {i j k l : Nat}, i < count → blocks[j]? = some (k, l) → batch[[i, j]]? =
            some (Beta.share k l (used.1.drop (i * Beta.uniforms blocks + Beta.uniforms (blocks.take j))))) ∧
    ∀ {G : Type} [Variates ℝ G], Beta.Proper G → ∀ {p : Beta ℝ} {width : Nat}, p.Shaped width → ∀ (count : Nat) (g : G),
      ∃ batch g', p.sample count g = (.ok batch, g') ∧ batch.shape = [count, width] ∧
        ∀ x ∈ batch.toList, 0 < x ∧ x < 1 := by
  refine ⟨fun shaped => ⟨fun shaped' same => Beta.sample_eq_of_wholeNumbers shaped shaped' same, ?_⟩, ?_⟩
  · intro blocks whole small count g
    exact Beta.exists_batch_of_areSums shaped (Beta.areSums_of_wholeNumbers whole small) count g
  · intro G _ proper p width shaped count g
    obtain ⟨batch, drawn, sized, entries⟩ := Beta.exists_sample shaped count g
    refine ⟨batch, _, drawn, sized, ?_⟩
    rw [entries]
    exact forall_mem_drawEach (Beta.variate_inside proper) _ g

@[reducible] noncomputable def exactDraws : Variates ℝ Replay where
  uniform g := (((WordSource.nextWord g).1.toNat / 2048 : Nat) / (0x20000000000000 : Nat), (WordSource.nextWord g).2)
  openUniform g :=
    ((2 * ((WordSource.nextWord g).1.toNat / 4096) + 1 : Nat) / (0x20000000000000 : Nat), (WordSource.nextWord g).2)
  normal g := (0, g)
  gamma k g := (k, g)

theorem proper_exactDraws : @Beta.Proper Replay exactDraws := by
  refine @Beta.Proper.mk Replay exactDraws (fun g => ?_) fun _ large => lt_trans (by norm_num) large
  have word := (WordSource.nextWord g).1.toNat_lt
  have digits : 2 * ((WordSource.nextWord g).1.toNat / 4096) + 1 < 0x20000000000000 := by omega
  have pos : (0 : ℝ) < (0x20000000000000 : Nat) := Nat.cast_pos.2 (by decide)
  constructor
  · exact div_pos (Nat.cast_pos.2 (Nat.succ_pos _)) pos
  · exact (div_lt_one pos).2 (Nat.cast_lt.2 digits)

theorem beta_draws_of_pairs :
    let p : Beta Float := ⟨.vector [2.5, -1.5], .vector [1.5, 3]⟩
    let q : Beta Float := ⟨.vector [2, 0 / 0], .vector [-1 / 0, 3.75]⟩
    let r : Beta ℝ := ⟨.vector [5 / 2, 1 / 2], .vector [3 / 2, 3]⟩
    let g : Replay := ⟨#[0, 0xFFFFFFFFFFFFFFFF], 0⟩
    p.Shaped 2 ∧ q.Shaped 2 ∧ r.Shaped 2 ∧ p.wholeNumbers = [(2, 1), (1, 3)] ∧ q.wholeNumbers = [(2, 1), (1, 3)] ∧
      p.sample 2 g = q.sample 2 g ∧
      (∃ batch, p.sample 2 g = (.ok batch, (drawMany (Variates.openUniform (R := Float)) 14 g).2) ∧
        batch[[1, 1]]? = some (Beta.share 1 3 ((drawMany Variates.openUniform 14 g).1.drop 10))) ∧
      ∃ batch g', @Beta.sample ℝ Replay _ exactDraws r 2 g = (.ok batch, g') ∧ ∀ x ∈ batch.toList, 0 < x ∧ x < 1 := by
  intro p q r g
  obtain ⟨doubles, exact⟩ := beta_draws_of_whole_shapes
  have hp : p.Shaped 2 := ⟨rfl, rfl⟩
  have hq : q.Shaped 2 := ⟨rfl, rfl⟩
  have hr : r.Shaped 2 := ⟨rfl, rfl⟩
  have whole : p.wholeNumbers = [(2, 1), (1, 3)] := by decide +kernel
  have whole' : q.wholeNumbers = [(2, 1), (1, 3)] := by decide +kernel
  obtain ⟨same, placed⟩ := doubles (G := Replay) hp
  obtain ⟨batch, drawn, -, entries⟩ := @placed [(2, 1), (1, 3)] whole (by decide) 2 g
  obtain ⟨batch', g', drawn', -, inside⟩ := @exact Replay exactDraws proper_exactDraws r 2 hr 2 g
  exact ⟨hp, hq, hr, whole, whole', same hq (whole.trans whole'.symm) 2 g,
    ⟨batch, drawn, entries (by decide) rfl⟩, batch', g', drawn', inside⟩

end CrossEntropy
