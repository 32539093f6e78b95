import CrossEntropy.Family.Categorical
import CrossEntropy.Proofs.RunningSums
import CrossEntropy.Proofs.Tiling
import CrossEntropy.Random.FloatVariates

namespace CrossEntropy
variable {R G : Type} [Scalar R]

/-- The first index below `n` whose cumulative value exceeds the draw, the last index if there is none. -/
inductive IsPick (n : Nat) (cumulative : Nat → R) (draw : R) (k : Nat) : Prop
  | first (inside : k < n) (exceeds : draw < cumulative k) (before : ∀ l < k, ¬draw < cumulative l)
  | last (inside : k + 1 = n) (none : ∀ l < n, ¬draw < cumulative l)

namespace IsPick
variable {n k l : Nat} {cumulative cumulative' : Nat → R} {draw draw' : R}

theorem lt (pick : IsPick n cumulative draw k) : k < n := by
  cases pick with
  | first inside => exact inside
  | last inside => omega

theorem not_before (pick : IsPick n cumulative draw k) (before : l < k) : ¬draw < cumulative l := by
  cases pick with
  | first _ _ none => exact none l before
  | last inside none => exact none l (by omega)

theorem le_of_exceeds (pick : IsPick n cumulative draw k) (other : IsPick n cumulative draw' l)
    (exceeds : ∀ m, draw' < cumulative m → draw < cumulative m) : k ≤ l := by
  cases other with
  | first _ here => exact Nat.le_of_not_lt fun before => pick.not_before before (exceeds l here)
  | last inside =>
      have := pick.lt
      omega

theorem unique (pick : IsPick n cumulative draw k) (other : IsPick n cumulative draw l) : k = l :=
  Nat.le_antisymm (pick.le_of_exceeds other fun _ => id) (other.le_of_exceeds pick fun _ => id)

theorem congr (pick : IsPick n cumulative draw k) (same : ∀ l < n, cumulative l = cumulative' l) :
    IsPick n cumulative' draw k := by
  cases pick with
  | first inside exceeds before =>
      exact .first inside (same k inside ▸ exceeds) fun l hl => same l (Nat.lt_trans hl inside) ▸ before l hl
  | last inside none => exact .last inside fun l hl => same l hl ▸ none l hl

end IsPick

theorem isPick_firstExceeding {n : Nat} (pos : 0 < n) (cumulative : Nat → R) (draw : R) :
    IsPick n cumulative draw (firstExceeding ((List.range n).map cumulative) draw) := by
  rw [firstExceeding]
  cases found : ((List.range n).map cumulative).findIdx? fun value => draw < value with
  | none =>
      refine .last ?_ fun l hl exceeds => ?_
      · simp only [List.length_map, List.length_range, Option.getD_none]
        omega
      · have member : cumulative l ∈ (List.range n).map cumulative :=
          List.mem_map.2 ⟨l, List.mem_range.2 hl, rfl⟩
        exact of_decide_eq_false (List.findIdx?_eq_none_iff.1 found _ member) exceeds
  | some k =>
      obtain ⟨lt, exceeds, before⟩ := List.findIdx?_eq_some_iff_getElem.1 found
      simp only [List.getElem_map, List.getElem_range, decide_eq_true_eq] at exceeds before
      rw [List.length_map, List.length_range] at lt
      exact .first lt exceeds before

variable [Variates R G]

namespace Tensor

theorem getElem?_drawMany_offset {α : Type} {shape : Shape} (draw : G → α × G) (g : G) {i : List Nat}
    (h : shape.InBounds i) :
    (drawMany draw shape.size g).1[shape.offset i]? = some ((fill shape draw g).1.get i h) := by
  have lt : shape.offset i < (drawMany draw shape.size g).1.length := by
    rw [length_drawMany]
    exact Shape.offset_lt h
  rw [List.getElem?_eq_getElem lt]
  rfl

omit [Scalar R] [Variates R G] in
theorem checkAxis_eq_ok {a : Tensor R} {axis : Nat} (below : axis < a.rank) (pos : 0 < a.extent axis) :
    a.checkAxis axis = .ok () := by
  rw [checkAxis, if_neg (Nat.not_le_of_lt below), if_neg (Nat.ne_of_gt pos)]

omit [Variates R G] in
theorem pickCdfWith_eq {cdf draws : Tensor R} {axis : Nat} (below : axis < cdf.rank) (pos : 0 < cdf.extent axis)
    (shape : draws.shape = cdf.shape.eraseIdx axis) :
    cdf.pickCdfWith axis draws =
      .ok (ofFn draws.shape fun i h => firstExceeding (cdf.lane axis i) (draws.get i h)) := by
  rw [pickCdfWith, checkAxis_eq_ok below pos]
  exact if_pos shape

theorem pickPmf_eq {a : Tensor R} {axis : Nat} {lanes : Shape} (below : axis < a.rank) (pos : 0 < a.extent axis)
    (reduced : a.shape.eraseIdx axis = lanes) (g : G) :
    a.pickPmf axis g =
      (.ok (ofFn lanes fun i h => firstExceeding (runningSums (a.lane axis i))
        ((fill lanes (Variates.uniform (R := R)) g).1.get i h)),
      (drawMany (Variates.uniform (R := R)) lanes.size g).2) := by
  subst reduced
  have sound : checkAxis (a.cumsum axis) axis = .ok () := checkAxis_eq_ok below pos
  have picked : (a.cumsum axis).pickCdfWith axis
      (fill (a.shape.eraseIdx axis) (Variates.uniform (R := R)) g).1 = _ := pickCdfWith_eq below pos rfl
  rw [pickPmf, pickCdf, sound]
  refine Prod.ext (picked.trans ?_) rfl
  refine congrArg Except.ok (congrArg (ofFn (a.shape.eraseIdx axis)) ?_)
  funext i h
  exact congrArg (firstExceeding · _) (lane_cumsum a h)

theorem pickPmf_of_empty {a : Tensor R} {axis : Nat} (below : axis < a.rank) (none : a.extent axis = 0) (g : G) :
    a.pickPmf axis g = (.error (.emptyAxis axis), g) := by
  have refused : checkAxis (a.cumsum axis) axis = .error (.emptyAxis axis) := by
    have inside : ¬(a.cumsum axis).rank ≤ axis := Nat.not_le_of_lt below
    rw [checkAxis, if_neg inside]
    exact if_pos none
  rw [pickPmf, pickCdf, refused]

end Tensor

namespace Categorical
variable {p : Tensor R} {rows columns count : Nat}

omit [Scalar R] in
theorem rank_ne_zero (shape : p.shape = [rows, columns]) : p.rank ≠ 0 := by
  rw [Tensor.rank, shape]
  exact Nat.succ_ne_zero _

theorem repeats_positive (some : count ≠ 0) : 0 ∉ [1, 1, count] := by
  simp [some.symm]

omit [Scalar R] in
theorem shape_tile (shape : p.shape = [rows, columns]) (some : count ≠ 0) :
    (p.tile [1, 1, count]).shape = [rows, columns, count] := by
  rw [Tensor.shape_tile (rank_ne_zero shape) (repeats_positive some), shape]
  simp [Shape.tiled]

omit [Scalar R] in
theorem getElem?_tile (shape : p.shape = [rows, columns]) {k j i : Nat} (hk : k < rows)
    (hj : j < columns) (hi : i < count) : (p.tile [1, 1, count])[[k, j, i]]? = p[[k, j]]? := by
  have positive := repeats_positive (Nat.ne_zero_of_lt hi)
  have bound : Shape.InBounds (Shape.tiled p.shape [1, 1, count]) [k, j, i] := by
    simp [shape, Shape.tiled, Shape.InBounds, hk, hj, hi]
  have same : p.shape.wrap [k, j, i] = [k, j] := by
    simp [shape, Shape.wrap, Nat.mod_eq_of_lt hk, Nat.mod_eq_of_lt hj]
  rw [Tensor.getElem?_tile (rank_ne_zero shape) positive bound, same]

omit [Scalar R] in
theorem lane_tile (shape : p.shape = [rows, columns]) (pos : 0 < rows) {j i : Nat}
    (hj : j < columns) (hi : i < count) : (p.tile [1, 1, count]).lane 0 [j, i] = p.lane 0 [j] := by
  have tiled := shape_tile shape (Nat.ne_zero_of_lt hi)
  obtain ⟨entries, column, lane⟩ := Tensor.exists_lane_of_cons (i := [j]) shape pos ⟨hj, trivial⟩
  have repeated : (p.tile [1, 1, count]).HasLane 0 rows [j, i] entries := by
    refine ⟨?_, fun k hk => (getElem?_tile shape hk hj hi).trans (column.entry k hk)⟩
    rw [tiled]
    exact ⟨hj, hi, trivial⟩
  rw [lane, repeated.lane_eq (by rw [tiled]; rfl)]

omit [Scalar R] in
theorem first_axis_of_tile (shape : p.shape = [rows, columns]) (some : count ≠ 0) :
    0 < (p.tile [1, 1, count]).rank ∧ (p.tile [1, 1, count]).extent 0 = rows := by
  have tiled := shape_tile shape some
  refine ⟨?_, Tensor.extent_zero tiled⟩
  rw [Tensor.rank, tiled]
  exact Nat.succ_pos _

theorem sample_of_pos (shape : p.shape = [rows, columns]) (pos : 0 < rows) (some : 0 < count) (g : G) :
    ∃ samples, sample p count g =
        (.ok samples, (drawMany (Variates.uniform (R := R)) (columns * count) g).2) ∧
      samples.shape = [count, columns] ∧
      ∀ {i j}, i < count → j < columns → ∃ draw,
        (drawMany (Variates.uniform (R := R)) (columns * count) g).1[j * count + i]? = .some draw ∧
        samples[[i, j]]? = .some (firstExceeding (runningSums (p.lane 0 [j])) draw) := by
  obtain ⟨below, height⟩ := first_axis_of_tile shape (Nat.ne_of_gt some)
  have lanes : (p.tile [1, 1, count]).shape.eraseIdx 0 = [columns, count] := by
    rw [shape_tile shape (Nat.ne_of_gt some)]
    rfl
  have picks := Tensor.pickPmf_eq below (height ▸ pos) lanes g
  rw [sample, if_neg (Nat.ne_of_gt some), picks]
  have total : Shape.size [columns, count] = columns * count := by simp
  refine ⟨_, Prod.ext rfl (by rw [total]), rfl, fun {i j} hi hj => ?_⟩
  have bound : Shape.InBounds [columns, count] [j, i] := ⟨hj, hi, trivial⟩
  have turned : Shape.InBounds [count, columns] [i, j] := ⟨hi, hj, trivial⟩
  have drawn := Tensor.getElem?_drawMany_offset (Variates.uniform (R := R)) g bound
  have place : Shape.offset [columns, count] [j, i] = j * count + i := by simp [Shape.offset]
  rw [place, total] at drawn
  refine ⟨_, drawn, (Tensor.getElem?_ofFn turned).trans (congrArg Option.some ?_)⟩
  refine (Tensor.get_ofFn bound).trans ?_
  rw [lane_tile shape pos hj hi]

theorem sample_of_valueless (shape : p.shape = [0, columns]) (some : count ≠ 0) (g : G) :
    sample p count g = (.error (.emptyAxis 0), g) := by
  obtain ⟨below, height⟩ := first_axis_of_tile shape some
  rw [sample, if_neg some, Tensor.pickPmf_of_empty below height]
  rfl

theorem sample_of_zero (shape : p.shape = [rows, columns]) (g : G) :
    sample p 0 g = (.ok (.replicate [0, columns] 0), g) := by
  have width : numVariables p = columns := by
    change p.extent 1 = _
    rw [Tensor.extent, shape]
    rfl
  rw [sample, if_pos rfl, width]

-- Either there is no value to pick, or the picks are a matrix.
theorem sampled_or_valueless (shape : p.shape = [rows, columns]) (count : Nat) (g : G) :
    (¬(rows = 0 ∧ 0 < count) ∧
      ∃ samples g', sample p count g = (.ok samples, g') ∧ samples.shape = [count, columns]) ∨
    ((rows = 0 ∧ 0 < count) ∧ sample p count g = (.error (.emptyAxis 0), g)) := by
  rcases Nat.eq_zero_or_pos count with rfl | more
  · exact .inl ⟨fun h => Nat.lt_irrefl 0 h.2, _, g, sample_of_zero shape g, rfl⟩
  · rcases Nat.eq_zero_or_pos rows with rfl | pos
    · exact .inr ⟨⟨rfl, more⟩, sample_of_valueless shape (Nat.ne_of_gt more) g⟩
    · obtain ⟨samples, drawn, layout, -⟩ := sample_of_pos shape pos more g
      exact .inl ⟨fun h => Nat.ne_of_gt pos h.1, samples, _, drawn, layout⟩

theorem generate_of_sample {g g' : G} {samples : Tensor Nat} (drawn : sample p count g = (.ok samples, g'))
    (layout : samples.shape = [count, columns]) : generate p count g = (.ok samples, g') := by
  have matrix : samples.rank = 2 := by
    rw [Tensor.rank, layout]
    rfl
  simp only [generate, drawn]
  exact congrArg (·, g') (if_pos matrix)

theorem generate_of_refused {g g' : G} {e : PickError} (refused : sample p count g = (.error e, g')) :
    generate p count g = (.error (.pick e), g') := by
  simp only [generate, refused]
  rfl

theorem generate_eq_error_iff (shape : p.shape = [rows, columns]) (count : Nat) (g : G) (e : SampleError) :
    (generate p count g).1 = .error e ↔ rows = 0 ∧ 0 < count ∧ e = .pick (.emptyAxis 0) := by
  rcases sampled_or_valueless shape count g with ⟨valued, samples, g', drawn, layout⟩ | ⟨valueless, refused⟩
  · rw [generate_of_sample drawn layout, ← and_assoc]
    simp [valued]
  · rw [generate_of_refused refused, ← and_assoc]
    simp [valueless, eq_comm]

omit [Variates R G] in
theorem exists_pick_column (shape : p.shape = [rows, columns]) (pos : 0 < rows) {j : Nat} (hj : j < columns)
    (draw : R) : ∃ entries, p.HasLane 0 rows [j] entries ∧
      IsPick rows (runningSum entries) draw (firstExceeding (runningSums (p.lane 0 [j])) draw) := by
  obtain ⟨entries, column, lane⟩ := Tensor.exists_lane_of_cons (i := [j]) shape pos ⟨hj, trivial⟩
  refine ⟨entries, column, ?_⟩
  rw [lane, runningSums_range]
  exact isPick_firstExceeding pos _ draw

theorem generate_picks_columns (shape : p.shape = [rows, columns]) (count : Nat) (g : G) :
    (0 < rows → ∃ samples, generate p count g =
        (.ok samples, (drawMany (Variates.uniform (R := R)) (count * columns) g).2) ∧
      samples.shape = [count, columns] ∧
      ∀ {i j}, i < count → j < columns → ∃ entries draw value, p.HasLane 0 rows [j] entries ∧
        (drawMany (Variates.uniform (R := R)) (count * columns) g).1[j * count + i]? = some draw ∧
        samples[[i, j]]? = some value ∧ value < rows ∧ IsPick rows (runningSum entries) draw value) ∧
    (rows = 0 → 0 < count → generate p count g = (.error (.pick (.emptyAxis 0)), g)) ∧
    (rows = 0 → count = 0 → generate p count g = (.ok (.replicate [0, columns] 0), g)) ∧
    (generate p count g).1 ≠ .error .notMatrix := by
  have unasked : generate p 0 g = (.ok (.replicate [0, columns] 0), g) :=
    generate_of_sample (sample_of_zero shape g) rfl
  refine ⟨fun pos => ?_, fun none more => ?_, fun _ none => none ▸ unasked, fun refused => ?_⟩
  · rcases Nat.eq_zero_or_pos count with rfl | more
    · refine ⟨.replicate [0, columns] 0, ?_, rfl, fun hi => absurd hi (Nat.not_lt_zero _)⟩
      rw [unasked, Nat.zero_mul]
      rfl
    · obtain ⟨samples, drawn, layout, picked⟩ := sample_of_pos shape pos more g
      rw [Nat.mul_comm] at drawn
      refine ⟨samples, generate_of_sample drawn layout, layout, fun {i j} hi hj => ?_⟩
      obtain ⟨draw, next, value⟩ := picked hi hj
      rw [Nat.mul_comm columns] at next
      obtain ⟨entries, column, pick⟩ := exists_pick_column shape pos hj draw
      exact ⟨entries, draw, _, column, next, value, pick.lt, pick⟩
  · subst none
    exact generate_of_refused (sample_of_valueless shape (Nat.ne_of_gt more) g)
  · cases ((generate_eq_error_iff shape count g _).1 refused).2.2

def uneven : Tensor Float := ⟨[3, 2], #[0.5, 0.25, 0.25, 0.25, 0.25, 0.25], rfl⟩

def valueless : Tensor Float := ⟨[0, 3], #[], rfl⟩

-- The third draw equals a running sum of the second column and has to exceed it; the fourth is beyond all of them.
theorem generate_uneven_valueless :
    let g : Replay := ⟨#[0, 0xFFFFFFFFFFFFFFFF, 0x4000000000000000, 0xFFFFFFFFFFFFFFFF], 0⟩
    (∃ samples, generate uneven 2 g = (.ok samples, (drawMany (Variates.uniform (R := Float)) 4 g).2) ∧
      samples.shape = [2, 2] ∧ samples[[0, 0]]? = some 0 ∧ samples[[1, 0]]? = some 2 ∧
      samples[[0, 1]]? = some 1 ∧ samples[[1, 1]]? = some 2) ∧
    generate valueless 2 g = (.error (.pick (.emptyAxis 0)), g) ∧
    generate valueless 0 g = (.ok (.replicate [0, 3] 0), g) ∧
    (generate uneven 2 g).1 ≠ .error .notMatrix := by
  intro g
  obtain ⟨of_pos, -, -, matrix⟩ := generate_picks_columns (show uneven.shape = [3, 2] from rfl) 2 g
  obtain ⟨samples, drawn, layout, picked⟩ := of_pos (by decide)
  have draws : (drawMany (Variates.uniform (R := Float)) (2 * 2) g).1 =
      [0, 0.9999999999999999, 0.25, 0.9999999999999999] := by decide +kernel
  rw [draws] at picked
  have refused := (generate_picks_columns (show valueless.shape = [0, 3] from rfl) 2 g).2.1 rfl (by decide)
  have empty := (generate_picks_columns (show valueless.shape = [0, 3] from rfl) 0 g).2.2.1 rfl rfl
  have value {i j v : Nat} {draw : Float} {f : Nat → Float} (hi : i < 2) (hj : j < 2)
      (column : uneven.HasLane 0 3 [j] f)
      (next : [0, 0.9999999999999999, 0.25, 0.9999999999999999][j * 2 + i]? = some draw)
      (pick : IsPick 3 (runningSum f) draw v) : samples[[i, j]]? = some v := by
    obtain ⟨entries, draw', v', column', next', sampled, -, pick'⟩ := picked hi hj
    obtain rfl := Option.some.inj (next.symm.trans next')
    have same := runningSum_congr fun c hc => Option.some.inj ((column'.entry c hc).symm.trans (column.entry c hc))
    rw [sampled, (pick'.congr same).unique pick]
  have first : uneven.HasLane 0 3 [0] fun c => if c = 0 then 0.5 else 0.25 :=
    ⟨by decide, fun | 0, _ => rfl | 1, _ => rfl | 2, _ => rfl⟩
  have second : uneven.HasLane 0 3 [1] fun _ => 0.25 := ⟨by decide, fun | 0, _ => rfl | 1, _ => rfl | 2, _ => rfl⟩
  refine ⟨⟨samples, drawn, layout, ?_, ?_, ?_, ?_⟩, refused, empty, matrix⟩
  · exact value (by decide) (by decide) first rfl (.first (by decide) (by decide +kernel) (by simp))
  · exact value (by decide) (by decide) first rfl (.first (by decide) (by decide +kernel) (by decide +kernel))
  · exact value (by decide) (by decide) second rfl (.first (by decide) (by decide +kernel) (by decide +kernel))
  · exact value (by decide) (by decide) second rfl (.last rfl (by decide +kernel))

end Categorical
end CrossEntropy
