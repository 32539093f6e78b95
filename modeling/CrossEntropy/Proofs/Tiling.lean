import CrossEntropy.Proofs.Frequencies
import CrossEntropy.Tensor.Tile

namespace CrossEntropy

namespace Shape
variable {s : Shape} {r t : List Nat}

@[simp] theorem tiled_nil (s : Shape) : tiled s [] = s := by
  cases s <;> rfl

theorem length_tiled (s : Shape) (r : List Nat) : (tiled s r).length = max s.length r.length := by
  induction s generalizing r with
  | nil => cases r <;> simp [tiled]
  | cons n s ih =>
      cases r with
      | nil => simp
      | cons m r =>
          rw [tiled, List.length_cons, ih, List.length_cons, List.length_cons]
          omega

theorem getD_tiled (s : Shape) (r : List Nat) (k : Nat) : (tiled s r).getD k 1 = s.getD k 1 * r.getD k 1 := by
  induction s generalizing r k with
  | nil => cases r <;> simp [tiled]
  | cons n s ih =>
      cases r with
      | nil => simp
      | cons m r =>
          cases k with
          | zero => rfl
          | succ k => simpa [tiled] using ih r k

theorem tiled_assoc (s : Shape) (r t : List Nat) : tiled (tiled s r) t = tiled s (tiled r t) := by
  induction s generalizing r t with
  | nil => cases r <;> cases t <;> rfl
  | cons n s ih =>
      cases r with
      | nil => cases t <;> rfl
      | cons m r =>
          cases t with
          | nil => rfl
          | cons l t => simp only [tiled, ih, Nat.mul_assoc]

theorem zero_mem_tiled_iff (positive : 0 ∉ r) : 0 ∈ tiled r t ↔ 0 ∈ t := by
  induction r generalizing t with
  | nil => cases t <;> rfl
  | cons m r ih =>
      have first : 0 ≠ m := fun zero => positive (zero ▸ List.mem_cons_self)
      have rest : 0 ∉ r := fun later => positive (List.mem_cons_of_mem m later)
      cases t with
      | nil => simp [positive]
      | cons l t =>
          have product : 0 = m * l ↔ 0 = l := by
            rw [eq_comm, Nat.mul_eq_zero, or_iff_right (Ne.symm first)]
            exact eq_comm
          rw [tiled, List.mem_cons, List.mem_cons, product, ih rest]

def products (r t : List Nat) : List Nat := List.zipWithAll (fun m n => m.getD 1 * n.getD 1) r t

theorem tiled_eq_products (r t : List Nat) : tiled r t = products r t := by
  unfold products
  induction r generalizing t with
  | nil => cases t <;> simp [tiled]
  | cons m r ih =>
      cases t with
      | nil => simp
      | cons l t => simp [tiled, ih]

theorem wrap_eq_zipWith (s : Shape) (i : List Nat) : s.wrap i = i.zipWith (· % ·) s := by
  induction s generalizing i with
  | nil => cases i <;> rfl
  | cons n s ih =>
      cases i with
      | nil => rfl
      | cons k i => simp [wrap, ih]

theorem wrap_wrap_tiled (s : Shape) (r i : List Nat) : s.wrap ((tiled s r).wrap i) = s.wrap i := by
  induction s generalizing r i with
  | nil => rfl
  | cons n s ih =>
      cases i with
      | nil => cases r <;> rfl
      | cons k i =>
          cases r with
          | nil =>
              have rest := ih [] i
              rw [tiled_nil] at rest
              simp only [tiled_nil, wrap, Nat.mod_mod, rest]
          | cons m r => simp only [tiled, wrap, Nat.mod_mul_right_mod, ih]

end Shape

namespace Tensor
variable {α : Type} {a : Tensor α} {r t : List Nat} {i : List Nat}

/-- An array laid out so many times along each axis: along the axes of the source its entries repeat, and along
further axes there are copies. -/
structure LaidOut (a : Tensor α) (counts : List Nat) (b : Tensor α) : Prop where
  rank : b.rank = max a.rank counts.length
  extent : ∀ k, b.shape.getD k 1 = a.shape.getD k 1 * counts.getD k 1
  entry : ∀ {i}, b.shape.InBounds i → 0 ∉ a.shape ∧ ∃ x, a[i.zipWith (· % ·) a.shape]? = some x ∧ b[i]? = some x

theorem tile_of_blank (blank : a.rank = 0 ∨ 0 ∈ r) : a.tile r = empty := if_pos blank

theorem tile_of_positive (some : a.rank ≠ 0) (positive : 0 ∉ r) :
    a.tile r = ofFn (Shape.tiled a.shape r) fun i h => a.get (a.shape.wrap i) h.wrap :=
  if_neg (not_or.2 ⟨some, positive⟩)

theorem shape_tile (some : a.rank ≠ 0) (positive : 0 ∉ r) : (a.tile r).shape = Shape.tiled a.shape r := by
  rw [tile_of_positive some positive, shape_ofFn]

theorem getElem?_tile (some : a.rank ≠ 0) (positive : 0 ∉ r) (h : (Shape.tiled a.shape r).InBounds i) :
    (a.tile r)[i]? = a[a.shape.wrap i]? := by
  rw [tile_of_positive some positive, getElem?_ofFn h, getElem?_eq, dif_pos h.wrap]

theorem tile_nil (some : a.rank ≠ 0) : a.tile [] = a := by
  have shape := shape_tile some List.not_mem_nil
  rw [Shape.tiled_nil] at shape
  refine ext_getElem? shape fun {i} inside => ?_
  rw [getElem?_tile some List.not_mem_nil (by rwa [Shape.tiled_nil]), inside.wrap_self]

theorem laidOut_tile (some : a.rank ≠ 0) (positive : 0 ∉ r) : a.LaidOut r (a.tile r) where
  rank := by rw [Tensor.rank, shape_tile some positive, Shape.length_tiled]
  extent k := by rw [shape_tile some positive, Shape.getD_tiled]
  entry {i} inside := by
    rw [shape_tile some positive] at inside
    refine ⟨inside.wrap.zero_notMem, a.get _ inside.wrap, ?_, ?_⟩
    · rw [← Shape.wrap_eq_zipWith]
      exact dif_pos inside.wrap
    · rw [getElem?_tile some positive inside]
      exact dif_pos inside.wrap

theorem tile_tile (some : a.rank ≠ 0) (positive : 0 ∉ r) (t : List Nat) :
    (a.tile r).tile t = a.tile (Shape.tiled r t) := by
  have shape := shape_tile some positive
  have ranked : (a.tile r).rank ≠ 0 := by
    rw [rank, shape, Shape.length_tiled]
    exact Nat.ne_of_gt (Nat.lt_of_lt_of_le (Nat.pos_of_ne_zero some) (Nat.le_max_left ..))
  by_cases zero : 0 ∈ t
  · -- A zero among the products can only come from the later counts.
    rw [tile_of_blank (.inr zero), tile_of_blank (.inr ((Shape.zero_mem_tiled_iff positive).2 zero))]
  · have product : 0 ∉ Shape.tiled r t := mt (Shape.zero_mem_tiled_iff positive).1 zero
    have shapes : ((a.tile r).tile t).shape = (a.tile (Shape.tiled r t)).shape := by
      rw [shape_tile ranked zero, shape, shape_tile some product, Shape.tiled_assoc]
    refine ext_getElem? shapes fun {i} inside => ?_
    rw [shape_tile some product] at inside
    -- Reducing by the lengths of the tiling and then by those of the source is reducing by those of the source.
    have twice : (Shape.tiled (a.tile r).shape t).InBounds i := by rwa [shape, Shape.tiled_assoc]
    have once := twice.wrap
    rw [shape] at once
    rw [getElem?_tile ranked zero twice, getElem?_tile some positive (shape ▸ once), shape, Shape.wrap_wrap_tiled,
      getElem?_tile some product inside]

theorem tiling_composes (a : Tensor α) :
    (∀ counts, (a.rank = 0 ∨ 0 ∈ counts → a.tile counts = empty) ∧
      (a.rank ≠ 0 → 0 ∉ counts → a.LaidOut counts (a.tile counts))) ∧
    (a.rank ≠ 0 → a.tile [] = a ∧ ∀ r t, 0 ∉ r →
      (a.tile r).tile t = a.tile (Shape.products r t) ∧ (0 ∈ Shape.products r t ↔ 0 ∈ t) ∧
        (0 ∉ t → ((a.tile r).tile t).rank = max a.rank (max r.length t.length))) := by
  refine ⟨fun counts => ⟨tile_of_blank, laidOut_tile⟩, fun some => ⟨tile_nil some, fun r t positive => ?_⟩⟩
  have products := Shape.tiled_eq_products r t
  have zeros := Shape.zero_mem_tiled_iff (t := t) positive
  refine ⟨products ▸ tile_tile some positive t, products ▸ zeros, fun nonzero => ?_⟩
  rw [tile_tile some positive, (laidOut_tile some (mt zeros.1 nonzero)).rank, Shape.length_tiled]

end Tensor
end CrossEntropy
