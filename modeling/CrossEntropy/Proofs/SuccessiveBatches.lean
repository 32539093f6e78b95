import CrossEntropy.Proofs.FamilyRuns
import CrossEntropy.Random.FloatVariates

namespace CrossEntropy
variable {R G ε α : Type}

/-- A batch of any size is made of so many draws of one row. -/
structure RowByRow (shape : Shape) (row : G → Tensor R × G) (sample : Nat → G → Except ε (Tensor R) × G) : Prop where
  exists_batch : ∀ count g, ∃ batch, sample count g = (.ok batch, (drawMany row count g).2) ∧
    batch.shape = count :: shape ∧ batch.rows = (drawMany row count g).1

structure Concatenates (shape : Shape) (sample : Nat → G → Except ε (Tensor R) × G) : Prop where
  append : ∀ m n g, ∃ first rest whole between last,
    sample m g = (.ok first, between) ∧ sample n between = (.ok rest, last) ∧ sample (m + n) g = (.ok whole, last) ∧
      first.shape = m :: shape ∧ rest.shape = n :: shape ∧ whole.shape = (m + n) :: shape ∧
      whole.rows = first.rows ++ rest.rows
  take : ∀ {n count}, n ≤ count → ∀ g, ∃ batch larger,
    (sample n g).1 = .ok batch ∧ (sample count g).1 = .ok larger ∧ batch.shape = n :: shape ∧
      larger.shape = count :: shape ∧ batch.rows = larger.rows.take n

theorem RowByRow.concatenates {shape : Shape} {row : G → Tensor R × G} {sample : Nat → G → Except ε (Tensor R) × G}
    (rowwise : RowByRow shape row sample) : Concatenates shape sample := by
  have append (m n : Nat) (g : G) : ∃ first rest whole between last,
      sample m g = (.ok first, between) ∧ sample n between = (.ok rest, last) ∧ sample (m + n) g = (.ok whole, last) ∧
        first.shape = m :: shape ∧ rest.shape = n :: shape ∧ whole.shape = (m + n) :: shape ∧
        whole.rows = first.rows ++ rest.rows := by
    obtain ⟨first, drawnFirst, sizedFirst, rowsFirst⟩ := rowwise.exists_batch m g
    obtain ⟨rest, drawnRest, sizedRest, rowsRest⟩ := rowwise.exists_batch n (drawMany row m g).2
    obtain ⟨whole, drawnWhole, sizedWhole, rowsWhole⟩ := rowwise.exists_batch (m + n) g
    rw [drawMany_add] at drawnWhole rowsWhole
    refine ⟨first, rest, whole, _, _, drawnFirst, drawnRest, drawnWhole, sizedFirst, sizedRest, sizedWhole, ?_⟩
    rw [rowsWhole, rowsFirst, rowsRest]
  refine ⟨append, fun {n count} le g => ?_⟩
  obtain ⟨first, rest, whole, _, _, drawnFirst, -, drawnWhole, sizedFirst, -, sizedWhole, rows⟩ :=
    append n (count - n) g
  rw [Nat.add_sub_cancel' le] at drawnWhole sizedWhole
  refine ⟨first, whole, congrArg Prod.fst drawnFirst, congrArg Prod.fst drawnWhole, sizedFirst, sizedWhole, ?_⟩
  have length : first.rows.length = n := by rw [Tensor.length_rows, Tensor.extent_zero sizedFirst]
  rw [rows, ← length, List.take_left]

namespace Tensor

theorem rows_of_toList {a : Tensor α} {rows : List (Tensor α)} {shape : Shape}
    (layout : a.shape = rows.length :: shape) (same : ∀ r ∈ rows, r.shape = shape)
    (entries : a.toList = rows.flatMap toList) : a.rows = rows := by
  have stacked : a = stack shape rows same := by
    apply Tensor.ext layout
    exact Array.toList_inj.1 entries
  rw [stacked, rows_stack]

theorem drawMany_fill (shape : Shape) (draw : G → α × G) (n : Nat) (g : G) :
    drawMany (drawMany draw shape.size) n g =
      ((drawMany (fill shape draw) n g).1.map toList, (drawMany (fill shape draw) n g).2) :=
  drawMany_map (fill shape draw) toList n g

theorem rows_fill (n : Nat) (shape : Shape) (draw : G → α × G) (g : G) :
    (fill (n :: shape) draw g).1.rows = (drawMany (fill shape draw) n g).1 := by
  have layout : (fill (n :: shape) draw g).1.shape = (drawMany (fill shape draw) n g).1.length :: shape := by
    rw [length_drawMany]
    rfl
  refine rows_of_toList layout (fun row member => ?_) ?_
  · obtain ⟨g', rfl⟩ := exists_draw_of_mem_drawMany member
    rfl
  · change (drawMany draw (n * shape.size) g).1 = _
    rw [drawMany_mul, drawMany_fill, List.flatMap_def]

theorem snd_fill (n : Nat) (shape : Shape) (draw : G → α × G) (g : G) :
    (fill (n :: shape) draw g).2 = (drawMany (fill shape draw) n g).2 := by
  change (drawMany draw (n * shape.size) g).2 = _
  rw [drawMany_mul, drawMany_fill]

theorem rows_eq_map {β : Type} {a : Tensor α} {b : Tensor β} {f : Tensor β → Tensor α}
    (extent : a.extent 0 = b.extent 0)
    (rowwise : ∀ {k : Nat} (ha : k < a.extent 0) (hb : k < b.extent 0), a.row k ha = f (b.row k hb)) :
    a.rows = b.rows.map f := by
  apply List.ext_getElem
  · rw [List.length_map, length_rows, length_rows, extent]
  · intro k ha hb
    rw [List.getElem_map]
    simp only [rows, List.getElem_ofFn]
    exact rowwise _ _

end Tensor

variable [Scalar R] [Variates R G]

namespace Gaussian

def scaled (p : Gaussian R) (same : p.mean.shape = p.stddev.shape) (normals : Tensor R) : Tensor R :=
  .ofFn p.mean.shape fun i hi => normals[i]?.getD 0 * p.stddev.get i (same ▸ hi) + p.mean.get i hi

theorem rowByRow {p : Gaussian R} (same : p.mean.shape = p.stddev.shape) :
    RowByRow p.mean.shape
      (fun g : G => (p.scaled same (Tensor.fill p.mean.shape Variates.normal g).1,
        (Tensor.fill p.mean.shape (Variates.normal (R := R)) g).2)) p.sample := by
  constructor
  intro count g
  rw [sample, dif_pos same, drawMany_map]
  refine ⟨_, Prod.ext rfl (Tensor.snd_fill ..), rfl, ?_⟩
  rw [← Tensor.rows_fill]
  refine Tensor.rows_eq_map rfl fun {k} ha hb => ?_
  refine Tensor.ext_getElem? rfl fun {i} inside => ?_
  have here : Shape.InBounds p.mean.shape i := inside
  have whole : Shape.InBounds (count :: p.mean.shape) (k :: i) := ⟨ha, here⟩
  rw [Tensor.getElem?_row, Tensor.getElem?_ofFn whole, scaled, Tensor.getElem?_ofFn here, Tensor.getElem?_row]
  rfl

end Gaussian

namespace Beta
variable {p : Beta R} {width : Nat}

theorem rowByRow (shaped : p.Shaped width) :
    RowByRow [width]
      (fun g : G => (.vector (drawEach variate p.shapes g).1, (drawEach variate p.shapes g).2)) p.sample := by
  constructor
  intro count g
  obtain ⟨batch, drawn, sized, entries⟩ := exists_sample shaped count g
  rw [drawEach_replicate] at drawn entries
  rw [drawMany_map]
  have layout :
      batch.shape = ((drawMany (drawEach variate p.shapes) count g).1.map Tensor.vector).length :: [width] := by
    rw [List.length_map, length_drawMany, sized]
  refine ⟨batch, drawn, sized, Tensor.rows_of_toList layout (fun row member => ?_) ?_⟩
  · obtain ⟨values, drawnValues, rfl⟩ := List.mem_map.1 member
    obtain ⟨g', rfl⟩ := exists_draw_of_mem_drawMany drawnValues
    change [(drawEach variate p.shapes g').1.length] = [width]
    rw [length_drawEach, length_shapes shaped]
  · rw [entries, List.flatMap_map]
    exact List.flatMap_id.symm

end Beta

theorem batches_concatenate (R G : Type) [Scalar R] [Variates R G] :
    (∀ {p : Gaussian R}, p.mean.shape = p.stddev.shape → Concatenates p.mean.shape (p.sample (G := G))) ∧
      ∀ {p : Beta R} {width : Nat}, p.Shaped width → Concatenates [width] (p.sample (G := G)) :=
  ⟨fun same => (Gaussian.rowByRow same).concatenates, fun shaped => (Beta.rowByRow shaped).concatenates⟩

theorem batches_concatenate_of_pairs :
    let normals : Gaussian Float := ⟨.vector [0.5, -1.5], .vector [1.5, 0]⟩
    let shares : Beta Float := ⟨.vector [2.5, 0.5], .vector [1.5, 70.5]⟩
    normals.mean.shape = normals.stddev.shape ∧ shares.Shaped 2 ∧
      Concatenates [2] (normals.sample (G := Replay)) ∧ Concatenates [2] (shares.sample (G := Replay)) := by
  intro normals shares
  have level : normals.Shaped [2] := ⟨rfl, rfl⟩
  have pair : shares.Shaped 2 := ⟨rfl, rfl⟩
  have same : normals.mean.shape = normals.stddev.shape := level.mean.trans level.stddev.symm
  obtain ⟨gaussian, beta⟩ := batches_concatenate Float Replay
  exact ⟨same, pair, gaussian same, beta pair⟩

end CrossEntropy
