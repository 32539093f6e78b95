import CrossEntropy.Proofs.Frequencies
import CrossEntropy.Proofs.RunningSums

namespace CrossEntropy
variable {α : Type}

theorem Shape.InBounds.modify_add {s : Shape} {axis count : Nat} {i : List Nat}
    (h : InBounds (s.modify axis (· - count)) i) : s.InBounds (i.modify axis (· + count)) := by
  induction s generalizing axis i with
  | nil =>
      cases axis <;> cases i with
      | nil => trivial
      | cons => exact h.elim
  | cons n s ih =>
      cases axis with
      | zero =>
          obtain ⟨k, i, rfl, hk, rest⟩ := InBounds.exists_cons (s := s) h
          exact ⟨Nat.add_lt_of_lt_sub hk, rest⟩
      | succ axis =>
          obtain ⟨k, i, rfl, hk, rest⟩ := InBounds.exists_cons (s := s.modify axis (· - count)) h
          exact ⟨hk, ih rest⟩

namespace Window
variable {w : Window} {buffer : Array α} {axis count n p size : Nat} {i j : List Nat}

theorem steps_modify (inside : axis < i.length) (strides : List Int) (count : Nat) :
    steps (i.modify axis (· + count)) strides = steps i strides + count * strides[axis]?.getD 0 := by
  induction i generalizing axis strides with
  | nil => exact absurd inside (Nat.not_lt_zero _)
  | cons k i ih =>
      cases strides with
      | nil => cases axis <;> simp [steps]
      | cons stride strides =>
          cases axis with
          | zero =>
              simp only [List.modify_zero_cons, steps, Int.natCast_add, Int.add_mul]
              simp
              omega
          | succ axis =>
              simp only [List.modify_succ_cons, steps, ih (Nat.lt_of_succ_lt_succ inside)]
              simp
              omega

theorem modify_add_injective (same : i.modify axis (· + count) = j.modify axis (· + count)) : i = j := by
  have back (l : List Nat) : (l.modify axis (· + count)).modify axis (· - count) = l := by
    have undone : (· - count) ∘ (· + count) = id := funext fun k => Nat.add_sub_cancel k count
    rw [List.modify_modify_eq, undone, List.modify_id]
  rw [← back i, same, back j]

theorem place_dropFront (inside : axis < i.length) :
    (w.dropFront axis count).place i = w.place (i.modify axis (· + count)) := by
  rw [place, place, steps_modify inside, dropFront, Int.add_assoc, Int.add_comm (count * _ : Int)]

theorem Fits.dropFront (fits : w.Fits size) (below : axis < w.shape.length) (count : Nat) :
    (w.dropFront axis count).Fits size := by
  have along {i : List Nat} (h : (w.dropFront axis count).shape.InBounds i) :
      (w.dropFront axis count).place i = w.place (i.modify axis (· + count)) := by
    refine place_dropFront ?_
    rw [h.length_eq, Window.dropFront, List.length_modify]
    exact below
  refine ⟨fun {i} h => ?_, fun {i j} hi hj same => ?_⟩
  · rw [along h]
    exact fits.inside h.modify_add
  · rw [along hi, along hj] at same
    exact modify_add_injective (fits.apart hi.modify_add hj.modify_add same)

def read (w : Window) (buffer : Array α) (fits : w.Fits buffer.size) : Tensor α :=
  .ofFn w.shape fun i h =>
    have := fits.inside h
    buffer[w.place i]

theorem getElem?_read (fits : w.Fits buffer.size) (h : w.shape.InBounds i) :
    (w.read buffer fits)[i]? = w.get? buffer i :=
  (Tensor.getElem?_ofFn h).trans (Array.getElem?_eq_getElem (fits.inside h)).symm

theorem getElem?_foldl {β : Type} {f : Array α → β → Array α} {ks : List β}
    (kept : ∀ k ∈ ks, ∀ buffer, (f buffer k)[p]? = buffer[p]?) (buffer : Array α) :
    (ks.foldl f buffer)[p]? = buffer[p]? := by
  induction ks generalizing buffer with
  | nil => rfl
  | cons k ks ih =>
      rw [List.foldl_cons, ih fun k later => kept k (.tail _ later)]
      exact kept k (.head _) buffer

variable [Add α]

theorem get?_cumsum (fits : w.Fits buffer.size) (h : w.shape.InBounds i) :
    w.get? (w.cumsum axis buffer) i = ((w.read buffer fits).cumsum axis)[i]? := by
  cases extent : w.shape[axis]? with
  | none =>
      have beyond := List.getElem?_eq_none_iff.1 extent
      have shown : (w.read buffer fits).cumsum axis = w.read buffer fits := Tensor.cumsum_of_rank_le beyond
      rw [cumsum_of_rank_le beyond, shown, getElem?_read fits h]
  | some n =>
      -- The entry lies in one lane, and both sums are taken in this lane.
      obtain ⟨j, c, inside, hc, -, rfl, -⟩ := h.exists_insertIdx extent
      have shown : (w.read buffer fits).shape[axis]? = some n := extent
      obtain ⟨f, known⟩ := Tensor.exists_lane shown (Nat.zero_lt_of_lt hc) inside
      have lane : w.Lane buffer axis n j f := fun k hk =>
        (getElem?_read fits (inside.insertIdx (by rwa [extent]))).symm.trans (known.entry k hk)
      rw [(known.cumsum shown).entry c hc]
      exact lane.cumsum fits extent inside c hc

theorem getElem?_addSlice {k : Nat} (extent : w.shape[axis]? = some n) (lt : k + 1 < n)
    (outside : ∀ {i}, w.shape.InBounds i → w.place i ≠ p) (buffer : Array α) :
    (w.addSlice axis buffer k)[p]? = buffer[p]? := by
  refine getElem?_foldl (fun i member buffer => getElem?_addInto_other (outside ?_)) buffer
  exact (Shape.mem_subscripts.1 member).insertIdx (by rwa [extent])

theorem getElem?_cumsum (outside : ∀ {i}, w.shape.InBounds i → w.place i ≠ p) :
    (w.cumsum axis buffer)[p]? = buffer[p]? := by
  cases extent : w.shape[axis]? with
  | none => rw [cumsum_of_rank_le (List.getElem?_eq_none_iff.1 extent)]
  | some n =>
      rw [cumsum_eq_foldl extent]
      refine getElem?_foldl (fun k member => getElem?_addSlice extent ?_ outside) buffer
      have := List.mem_range.1 member
      omega

end Window

namespace Tensor
variable {a : Tensor α} {axis count k : Nat} {i : List Nat}

def behind (a : Tensor α) (count : Nat) : Tensor α :=
  ofFn (a.shape.modify 0 (· - count)) fun i h => a.get (i.modify 0 (· + count)) h.modify_add

theorem getElem?_behind (h : (a.behind count).shape.InBounds i) :
    (a.behind count)[i]? = a[i.modify 0 (· + count)]? := by
  have inside : Shape.InBounds (a.shape.modify 0 (· - count)) i := h
  rw [behind, getElem?_ofFn inside, getElem?_eq, dif_pos inside.modify_add]

theorem place_behind (ranked : 0 < a.rank) (h : (a.behind count).shape.InBounds i) :
    ((Window.whole a.shape).dropFront 0 count).place i = (Window.whole a.shape).place (i.modify 0 (· + count)) := by
  refine Window.place_dropFront ?_
  rw [h.length_eq, behind, shape_ofFn, List.length_modify]
  exact ranked

theorem read_dropFront (ranked : 0 < a.rank) (fits : ((Window.whole a.shape).dropFront 0 count).Fits a.data.size) :
    ((Window.whole a.shape).dropFront 0 count).read a.data fits = a.behind count := by
  refine ext_getElem? rfl fun {i} h => ?_
  rw [Window.getElem?_read fits h, getElem?_behind h, ← get?_whole h.modify_add, Window.get?, place_behind ranked h]
  rfl

variable [Add α]

theorem getElem?_cumsumBehind (ranked : 0 < a.rank) (axis : Nat) (h : (a.behind count).shape.InBounds i) :
    (a.cumsumBehind count axis)[i.modify 0 (· + count)]? = ((a.behind count).cumsum axis)[i]? := by
  have fits := (a.size_eq.symm ▸ Window.fits_whole a.shape).dropFront ranked count
  rw [← read_dropFront ranked fits, ← Window.get?_cumsum fits h, Window.get?, place_behind ranked h]
  exact (get?_whole (a := a.cumsumBehind count axis) h.modify_add).symm

theorem getElem?_cumsumBehind_front (axis : Nat) (front : k < count) (h : a.shape.InBounds (k :: i)) :
    (a.cumsumBehind count axis)[k :: i]? = a[k :: i]? := by
  have ranked : 0 < a.rank := Nat.lt_of_lt_of_eq (Nat.succ_pos i.length) h.length_eq
  rw [← get?_whole h, ← get?_whole (a := a.cumsumBehind count axis) h]
  -- Whatever the window shows has a first coordinate of at least `count`.
  refine Window.getElem?_cumsum fun {j} hj same => ?_
  rw [place_behind ranked hj] at same
  have equal := (Window.fits_whole a.shape).apart hj.modify_add h same
  cases j with
  | nil => cases equal
  | cons l j =>
      rw [List.modify_zero_cons] at equal
      exact Nat.not_lt_of_le (Nat.le_add_left count l) ((List.cons.inj equal).1 ▸ front)

end Tensor
end CrossEntropy
