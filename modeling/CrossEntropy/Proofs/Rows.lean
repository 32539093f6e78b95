import CrossEntropy.Tensor.Basic

namespace CrossEntropy.Tensor
variable {α : Type}

theorem getElem?_flatMap_toList {shape : Shape} {rows : List (Tensor α)}
    (same : ∀ r ∈ rows, r.shape = shape) {k j : Nat} (lt : j < shape.size) :
    (rows.flatMap toList)[k * shape.size + j]? = rows[k]?.bind fun r => r.toList[j]? := by
  induction rows generalizing k with
  | nil => simp
  | cons r rows ih =>
      have length : r.toList.length = shape.size := by
        rw [toList, Array.length_toList, r.size_eq, same r (.head _)]
      rw [List.flatMap_cons]
      cases k with
      | zero => rw [List.getElem?_append_left (by omega)]; simp
      | succ k =>
          have behind : (k + 1) * shape.size + j = r.toList.length + (k * shape.size + j) := by
            rw [length, Nat.succ_mul]; omega
          rw [behind, List.getElem?_append_right (by omega), Nat.add_sub_cancel_left,
            ih fun q member => same q (.tail _ member)]
          simp

theorem getElem?_toList_offset {r : Tensor α} {shape : Shape} {i : List Nat} (hs : r.shape = shape)
    (bound : shape.InBounds i) : r.toList[shape.offset i]? = some (r.get i (hs ▸ bound)) := by
  subst hs
  have lt : r.shape.offset i < r.data.size := r.size_eq ▸ Shape.offset_lt bound
  rw [toList, Array.getElem?_toList, Array.getElem?_eq_getElem lt]
  rfl

theorem get_stack {shape : Shape} {rows : List (Tensor α)} (same : ∀ r ∈ rows, r.shape = shape)
    {k : Nat} {i : List Nat} (lt : k < rows.length) (bound : shape.InBounds i)
    (inside : (stack shape rows same).shape.InBounds (k :: i)) :
    (stack shape rows same).get (k :: i) inside =
      rows[k].get i ((same _ (List.getElem_mem lt)).symm ▸ bound) := by
  have row : rows[k].shape = shape := same _ (List.getElem_mem lt)
  have entry := getElem?_flatMap_toList same (k := k) (Shape.offset_lt bound)
  rw [List.getElem?_eq_getElem lt, Option.bind_some] at entry
  rw [getElem?_toList_offset row bound] at entry
  have whole := getElem?_toList_offset (r := stack shape rows same) rfl inside
  exact Option.some.inj (whole.symm.trans entry)

theorem rows_stack {shape : Shape} {rows : List (Tensor α)} (same : ∀ r ∈ rows, r.shape = shape) :
    (stack shape rows same).rows = rows := by
  apply List.ext_getElem
  · rw [length_rows]
    rfl
  · intro k _ lt
    have shapes : rows[k].shape = shape := same _ (List.getElem_mem lt)
    simp only [Tensor.rows, List.getElem_ofFn]
    refine ext_getElem shapes.symm fun i here _ => ?_
    exact (get_ofFn here).trans (get_stack same lt here _)

theorem extent_zero {a : Tensor α} {n : Nat} {s : Shape} (shape : a.shape = n :: s) : a.extent 0 = n := by
  rw [extent, shape]
  rfl

theorem shape_eq_of_mem_rows {a row : Tensor α} {n : Nat} {s : Shape} (shape : a.shape = n :: s)
    (member : row ∈ a.rows) : row.shape = s := by
  rw [shape_of_mem_rows member, shape]
  rfl

theorem drop_rows {a : Tensor α} {k : Nat} (lt : k < a.extent 0) :
    a.rows.drop k = a.row k lt :: a.rows.drop (k + 1) := by
  rw [List.drop_eq_getElem_cons (a.length_rows ▸ lt)]
  simp only [rows, List.getElem_ofFn]

theorem selectRows?_of_mapM {a : Tensor α} {chosen : List Nat} {rows : List (Tensor α)}
    (present : chosen.mapM (a.rows[·]?) = some rows) (member : ∀ r ∈ rows, r ∈ a.rows) :
    ∃ picked, a.selectRows? chosen = some picked ∧ picked.rows = rows ∧
      picked.shape = rows.length :: a.shape.tail := by
  have same : ∀ r ∈ rows, r.shape = a.shape.tail := fun r h => shape_of_mem_rows (member r h)
  simp only [getElem?_rows] at present
  refine ⟨stack a.shape.tail rows same, ?_, rows_stack same, rfl⟩
  rw [selectRows?, present, Option.bind_some, stack?, dif_pos same]

end CrossEntropy.Tensor
