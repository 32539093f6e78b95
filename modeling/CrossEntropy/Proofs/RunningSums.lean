import CrossEntropy.Tensor.Window

/-!
Running sums taken in place along an axis of a window are the running sums of each lane (`Lane.cumsum`,
`lane_cumsum`), since adding one slice into the next changes a lane only at its own entry of that slice.
-/

namespace CrossEntropy
variable {α : Type}

section Sums
variable [Add α]

def runningSumsFrom (total : α) : List α → List α
  | [] => []
  | x :: xs => (x + total) :: runningSumsFrom (x + total) xs

def runningSums : List α → List α
  | [] => []
  | x :: xs => x :: runningSumsFrom x xs

def runningSum (f : Nat → α) : Nat → α
  | 0 => f 0
  | k + 1 => f (k + 1) + runningSum f k

theorem runningSumsFrom_range (f : Nat → α) (k n : Nat) :
    runningSumsFrom (runningSum f k) ((List.range' (k + 1) n).map f) = (List.range' (k + 1) n).map (runningSum f) := by
  induction n generalizing k with
  | zero => rfl
  | succ n ih => exact congrArg (runningSum f (k + 1) :: ·) (ih (k + 1))

theorem runningSum_congr {f g : Nat → α} {n : Nat} (same : ∀ k < n, f k = g k) :
    ∀ k < n, runningSum f k = runningSum g k := by
  intro k hk
  induction k with
  | zero => exact same 0 hk
  | succ k ih => rw [runningSum, runningSum, same _ hk, ih (Nat.lt_of_succ_lt hk)]

theorem runningSums_range (f : Nat → α) (n : Nat) :
    runningSums ((List.range n).map f) = (List.range n).map (runningSum f) := by
  cases n with
  | zero => rfl
  | succ n =>
      rw [List.range_eq_range']
      exact congrArg (f 0 :: ·) (runningSumsFrom_range f 0 n)

end Sums

namespace Shape

theorem mem_subscripts {s : Shape} {i : List Nat} : i ∈ s.subscripts ↔ s.InBounds i := by
  constructor
  · intro h
    obtain ⟨k, hk, rfl⟩ := List.mem_map.1 h
    exact inBounds_subscript (List.mem_range.1 hk)
  · intro h
    exact List.mem_map.2 ⟨s.offset i, List.mem_range.2 (offset_lt h), subscript_offset h⟩

theorem nodup_subscripts (s : Shape) : s.subscripts.Nodup := by
  refine List.pairwise_map.2 (List.nodup_range.imp_of_mem fun hj hk other same => other ?_)
  have offsets := congrArg s.offset same
  rwa [offset_subscript (List.mem_range.1 hj), offset_subscript (List.mem_range.1 hk)] at offsets

end Shape

theorem insertIdx_eq_iff {i j : List Nat} {axis c d : Nat} (hi : axis ≤ i.length) (hj : axis ≤ j.length) :
    i.insertIdx axis c = j.insertIdx axis d ↔ i = j ∧ c = d := by
  constructor
  · intro eq
    have rest := congrArg (List.eraseIdx · axis) eq
    simp only [List.eraseIdx_insertIdx_self] at rest
    have here := congrArg (fun l : List Nat => l[axis]?) eq
    simp only [List.getElem?_insertIdx_self, if_pos hi, if_pos hj, Option.some.injEq] at here
    exact ⟨rest, here⟩
  · rintro ⟨rfl, rfl⟩
    rfl

namespace Window

/-- The entries of a window lie in the buffer, each at a place of its own. -/
structure Fits (w : Window) (size : Nat) : Prop where
  inside : ∀ {i}, w.shape.InBounds i → w.place i < size
  apart : ∀ {i j}, w.shape.InBounds i → w.shape.InBounds j → w.place i = w.place j → i = j

variable {w : Window} {buffer : Array α} {axis n : Nat}

theorem getElem?_addInto_other [Add α] {source target : List Nat} {p : Nat} (apart : w.place target ≠ p) :
    (w.addInto buffer source target)[p]? = buffer[p]? := by
  unfold addInto
  split
  · rw [Array.getElem?_modify, if_neg apart]
  · rfl

theorem get?_addInto_other [Add α] {source target i : List Nat} (fits : w.Fits buffer.size)
    (ht : w.shape.InBounds target) (hi : w.shape.InBounds i) (other : i ≠ target) :
    w.get? (w.addInto buffer source target) i = w.get? buffer i :=
  getElem?_addInto_other fun same => other (fits.apart hi ht same.symm)

theorem get?_addInto_target [Add α] {source target : List Nat} {x y : α} (hx : w.get? buffer source = some x)
    (hy : w.get? buffer target = some y) : w.get? (w.addInto buffer source target) target = some (y + x) := by
  simp only [addInto, hx]
  simp only [get?] at hy ⊢
  simp [Array.getElem?_modify, hy]

def Lane (w : Window) (buffer : Array α) (axis n : Nat) (i : List Nat) (f : Nat → α) : Prop :=
  ∀ c < n, w.get? buffer (i.insertIdx axis c) = some (f c)

theorem axis_le_length {s : Shape} {i : List Nat} (extent : s[axis]? = some n)
    (bound : Shape.InBounds (s.eraseIdx axis) i) : axis ≤ i.length := by
  obtain ⟨lt, -⟩ := List.getElem?_eq_some_iff.1 extent
  rw [bound.length_eq, List.length_eraseIdx_of_lt lt]
  omega

variable {i : List Nat} {f : Nat → α}

theorem Lane.addInto_other [Add α] {j : List Nat} {k : Nat} (lane : w.Lane buffer axis n i f)
    (fits : w.Fits buffer.size) (extent : w.shape[axis]? = some n)
    (hi : Shape.InBounds (w.shape.eraseIdx axis) i) (hj : Shape.InBounds (w.shape.eraseIdx axis) j) (other : j ≠ i)
    (lt : k + 1 < n) :
    w.Lane (w.addInto buffer (j.insertIdx axis k) (j.insertIdx axis (k + 1))) axis n i f := by
  intro c hc
  rw [get?_addInto_other fits, lane c hc]
  · exact hj.insertIdx (by rw [extent]; exact lt)
  · exact hi.insertIdx (by rw [extent]; exact hc)
  · intro same
    exact other ((insertIdx_eq_iff (axis_le_length extent hi) (axis_le_length extent hj)).1 same).1.symm

theorem Lane.addInto_self [Add α] {k : Nat} (lane : w.Lane buffer axis n i f) (fits : w.Fits buffer.size)
    (extent : w.shape[axis]? = some n) (hi : Shape.InBounds (w.shape.eraseIdx axis) i) (lt : k + 1 < n) :
    w.Lane (w.addInto buffer (i.insertIdx axis k) (i.insertIdx axis (k + 1))) axis n i
      fun c => if c = k + 1 then f c + f k else f c := by
  intro c hc
  by_cases here : c = k + 1
  · subst here
    rw [get?_addInto_target (lane k (by omega)) (lane _ hc)]
    exact congrArg some (if_pos rfl).symm
  · have length := axis_le_length extent hi
    rw [get?_addInto_other fits, lane c hc]
    · exact congrArg some (if_neg here).symm
    · exact hi.insertIdx (by rw [extent]; exact lt)
    · exact hi.insertIdx (by rw [extent]; exact hc)
    · intro same
      exact here ((insertIdx_eq_iff length length).1 same).2

theorem Lane.foldl_addInto [Add α] {k : Nat} {js : List (List Nat)} (lane : w.Lane buffer axis n i f)
    (fits : w.Fits buffer.size) (extent : w.shape[axis]? = some n)
    (hi : Shape.InBounds (w.shape.eraseIdx axis) i) (lt : k + 1 < n) (distinct : js.Nodup)
    (bounds : ∀ j ∈ js, Shape.InBounds (w.shape.eraseIdx axis) j) :
    w.Lane (js.foldl (fun buffer j => w.addInto buffer (j.insertIdx axis k) (j.insertIdx axis (k + 1))) buffer)
      axis n i fun c => if i ∈ js ∧ c = k + 1 then f c + f k else f c := by
  induction js generalizing buffer f with
  | nil => simpa using lane
  | cons j js ih =>
      obtain ⟨fresh, distinct⟩ := List.nodup_cons.1 distinct
      have hj := bounds j (.head _)
      have rest : ∀ j ∈ js, Shape.InBounds (w.shape.eraseIdx axis) j := fun j h => bounds j (.tail _ h)
      rw [List.foldl_cons]
      by_cases same : j = i
      · subst same
        have later := ih (lane.addInto_self fits extent hj lt) (by rwa [size_addInto]) distinct rest
        simpa [fresh] using later
      · have later := ih (lane.addInto_other fits extent hi hj same lt) (by rwa [size_addInto]) distinct rest
        have other : i ≠ j := fun eq => same eq.symm
        simpa [other] using later

theorem Lane.addSlice [Add α] {k : Nat} (lane : w.Lane buffer axis n i f) (fits : w.Fits buffer.size)
    (extent : w.shape[axis]? = some n) (hi : Shape.InBounds (w.shape.eraseIdx axis) i) (lt : k + 1 < n) :
    w.Lane (w.addSlice axis buffer k) axis n i fun c => if c = k + 1 then f c + f k else f c := by
  have member : i ∈ Shape.subscripts (w.shape.eraseIdx axis) := Shape.mem_subscripts.2 hi
  have added := lane.foldl_addInto fits extent hi lt (Shape.nodup_subscripts _) fun _ h => Shape.mem_subscripts.1 h
  simp only [member, true_and] at added
  exact added

theorem Lane.foldl_addSlice [Add α] {m : Nat} (lane : w.Lane buffer axis n i f) (fits : w.Fits buffer.size)
    (extent : w.shape[axis]? = some n) (hi : Shape.InBounds (w.shape.eraseIdx axis) i) (lt : m < n) :
    ((List.range m).foldl (w.addSlice axis) buffer).size = buffer.size ∧
      w.Lane ((List.range m).foldl (w.addSlice axis) buffer) axis n i
        fun c => if c ≤ m then runningSum f c else f c := by
  induction m with
  | zero =>
      refine ⟨rfl, fun c hc => (lane c hc).trans (congrArg some ?_)⟩
      by_cases first : c ≤ 0
      · obtain rfl := Nat.le_zero.1 first
        rfl
      · exact (if_neg first).symm
  | succ m ih =>
      obtain ⟨size, sums⟩ := ih (by omega)
      rw [List.range_succ, List.foldl_append]
      refine ⟨(w.size_addSlice axis _ m).trans size, fun c hc => ?_⟩
      have added := sums.addSlice (size.symm ▸ fits) extent hi lt c hc
      refine added.trans (congrArg some ?_)
      dsimp only
      by_cases here : c = m + 1
      · subst here
        rw [if_pos rfl, if_neg (Nat.not_succ_le_self m), if_pos (Nat.le_refl m), if_pos (Nat.le_refl _)]
        rfl
      · rw [if_neg here]
        by_cases before : c ≤ m
        · rw [if_pos before, if_pos (Nat.le_succ_of_le before)]
        · rw [if_neg before, if_neg (by omega)]

theorem Lane.cumsum [Add α] (lane : w.Lane buffer axis n i f) (fits : w.Fits buffer.size)
    (extent : w.shape[axis]? = some n) (hi : Shape.InBounds (w.shape.eraseIdx axis) i) :
    w.Lane (w.cumsum axis buffer) axis n i (runningSum f) := by
  intro c hc
  obtain ⟨-, sums⟩ := lane.foldl_addSlice fits extent hi (show n - 1 < n by omega)
  have last : c ≤ n - 1 := by omega
  rw [cumsum_eq_foldl extent]
  exact (sums c hc).trans (congrArg some (if_pos last))

theorem steps_rowStrides {s : Shape} {i : List Nat} (h : s.InBounds i) :
    steps i (rowStrides s) = (s.offset i : Int) := by
  induction s generalizing i with
  | nil =>
      cases i with
      | nil => rfl
      | cons => exact h.elim
  | cons n s ih =>
      cases i with
      | nil => exact h.elim
      | cons k i => rw [rowStrides, steps, Shape.offset, ih h.2, Int.natCast_add, Int.natCast_mul]

theorem place_whole {s : Shape} {i : List Nat} (h : s.InBounds i) : (whole s).place i = s.offset i := by
  rw [place, whole, Int.zero_add, steps_rowStrides h, Int.toNat_natCast]

theorem fits_whole (s : Shape) : (whole s).Fits s.size where
  inside {i} h := by
    have bound : s.InBounds i := h
    rw [place_whole bound]
    exact Shape.offset_lt bound
  apart {i j} hi hj same := by
    have bi : s.InBounds i := hi
    have bj : s.InBounds j := hj
    rw [place_whole bi, place_whole bj] at same
    rw [← Shape.subscript_offset bi, same, Shape.subscript_offset bj]

end Window

namespace Tensor

theorem get?_whole {a : Tensor α} {i : List Nat} (h : a.shape.InBounds i) :
    (Window.whole a.shape).get? a.data i = a[i]? := by
  have lt : a.shape.offset i < a.data.size := a.size_eq ▸ Shape.offset_lt h
  rw [Window.get?, Window.place_whole h, Array.getElem?_eq_getElem lt, getElem?_eq, dif_pos h]
  rfl

theorem filterMap_of_some {β γ : Type} {g : β → Option γ} {f : β → γ} {xs : List β}
    (all : ∀ x ∈ xs, g x = some (f x)) : xs.filterMap g = xs.map f := by
  induction xs with
  | nil => rfl
  | cons x xs ih =>
      rw [List.filterMap_cons, all x (.head _), ih fun y h => all y (.tail _ h), List.map_cons]

theorem lane_of_entries {a : Tensor α} {axis : Nat} {i : List Nat} {f : Nat → α}
    (entries : ∀ c < a.extent axis, a[i.insertIdx axis c]? = some (f c)) :
    a.lane axis i = (List.range (a.extent axis)).map f :=
  filterMap_of_some fun c hc => entries c (List.mem_range.1 hc)

theorem exists_entries {a : Tensor α} {axis : Nat} {i : List Nat} (pos : 0 < a.extent axis)
    (hi : Shape.InBounds (a.shape.eraseIdx axis) i) :
    ∃ f : Nat → α, ∀ c < a.extent axis, a[i.insertIdx axis c]? = some (f c) := by
  have entry {c : Nat} (hc : c < a.extent axis) : a.shape.InBounds (i.insertIdx axis c) := hi.insertIdx hc
  refine ⟨fun c => (a[i.insertIdx axis c]?).getD (a.get _ (entry pos)), fun c hc => ?_⟩
  have present : a[i.insertIdx axis c]? = some (a.get _ (entry hc)) := by
    rw [getElem?_eq, dif_pos (entry hc)]
  dsimp only
  rw [present, Option.getD_some]

section Lanes
variable {a : Tensor α} {axis n : Nat} {i : List Nat} {entries : Nat → α}

/-- The lane at a subscript without the axis: the entries with the coordinates `0, ..., n - 1` put back at the axis. -/
structure HasLane (a : Tensor α) (axis n : Nat) (i : List Nat) (entries : Nat → α) : Prop where
  inside : Shape.InBounds (a.shape.eraseIdx axis) i
  entry : ∀ c < n, a[i.insertIdx axis c]? = some (entries c)

theorem extent_of_axis (extent : a.shape[axis]? = some n) : axis < a.rank ∧ a.extent axis = n := by
  obtain ⟨below, -⟩ := List.getElem?_eq_some_iff.1 extent
  exact ⟨below, by rw [Tensor.extent, extent, Option.getD_some]⟩

theorem exists_lane (extent : a.shape[axis]? = some n) (pos : 0 < n)
    (inside : Shape.InBounds (a.shape.eraseIdx axis) i) : ∃ entries, a.HasLane axis n i entries := by
  obtain ⟨-, rfl⟩ := extent_of_axis extent
  obtain ⟨entries, entry⟩ := exists_entries pos inside
  exact ⟨entries, inside, entry⟩

theorem HasLane.lane_eq (lane : a.HasLane axis n i entries) (extent : a.shape[axis]? = some n) :
    a.lane axis i = (List.range n).map entries := by
  obtain ⟨-, rfl⟩ := extent_of_axis extent
  exact lane_of_entries lane.entry

theorem exists_lane_of_cons {shape : Shape} (layout : a.shape = n :: shape) (pos : 0 < n) (inside : shape.InBounds i) :
    ∃ entries, a.HasLane 0 n i entries ∧ a.lane 0 i = (List.range n).map entries := by
  have extent : a.shape[0]? = some n := by rw [layout]; rfl
  obtain ⟨entries, lane⟩ := exists_lane extent pos (by rw [layout]; exact inside)
  exact ⟨entries, lane, lane.lane_eq extent⟩

theorem HasLane.cumsum [Add α] (lane : a.HasLane axis n i entries) (extent : a.shape[axis]? = some n) :
    (a.cumsum axis).HasLane axis n i (runningSum entries) := by
  have inside {c : Nat} (hc : c < n) : a.shape.InBounds (i.insertIdx axis c) :=
    lane.inside.insertIdx (by rw [extent]; exact hc)
  have shown : (Window.whole a.shape).Lane a.data axis n i entries := fun c hc =>
    (get?_whole (inside hc)).trans (lane.entry c hc)
  have sums := shown.cumsum (a.size_eq.symm ▸ Window.fits_whole a.shape) extent lane.inside
  exact ⟨lane.inside, fun c hc => (get?_whole (a := a.cumsum axis) (inside hc)).symm.trans (sums c hc)⟩

theorem lane_cumsum [Add α] (a : Tensor α) (inside : Shape.InBounds (a.shape.eraseIdx axis) i) :
    (a.cumsum axis).lane axis i = runningSums (a.lane axis i) := by
  rcases Nat.eq_zero_or_pos (a.extent axis) with none | pos
  · have empty : (a.cumsum axis).extent axis = 0 := none
    simp [lane, none, empty, runningSums]
  · have extent : a.shape[axis]? = some (a.extent axis) := by
      unfold Tensor.extent at pos ⊢
      cases known : a.shape[axis]? with
      | none => simp [known] at pos
      | some n => rfl
    obtain ⟨entries, lane⟩ := exists_lane extent pos inside
    rw [lane.lane_eq extent, runningSums_range]
    exact (lane.cumsum extent).lane_eq extent

end Lanes

end Tensor
end CrossEntropy
