import CrossEntropy.Family.Categorical
import CrossEntropy.Proofs.Rows

namespace CrossEntropy

namespace Tensor
variable {α R : Type}

theorem getElem?_eq_data {a : Tensor α} {i : List Nat} (h : a.shape.InBounds i) :
    a[i]? = a.data[a.shape.offset i]? := by
  have lt : a.shape.offset i < a.data.size := a.size_eq ▸ Shape.offset_lt h
  rw [getElem?_eq, dif_pos h, Array.getElem?_eq_getElem lt]
  rfl

theorem getElem?_eq_none {a : Tensor α} {i : List Nat} (h : ¬a.shape.InBounds i) : a[i]? = none := by
  rw [getElem?_eq, dif_neg h]

theorem exists_entry {a : Tensor α} {i : List Nat} (h : a.shape.InBounds i) : ∃ x, a[i]? = some x :=
  ⟨_, dif_pos h⟩

theorem ext_getElem? {a b : Tensor α} (shape : b.shape = a.shape)
    (entries : ∀ {i : List Nat}, a.shape.InBounds i → b[i]? = a[i]?) : b = a := by
  refine ext_getElem shape fun i inside inside' => ?_
  have entry := entries inside'
  rwa [getElem?_eq, dif_pos inside, getElem?_eq, dif_pos inside', Option.some.injEq] at entry

theorem getElem?_row {a : Tensor α} {k : Nat} (lt : k < a.extent 0) (i : List Nat) : (a.row k lt)[i]? = a[k :: i]? := by
  by_cases inside : Shape.InBounds a.shape.tail i
  · have whole := inBounds_cons lt inside
    rw [getElem?_eq a, dif_pos whole]
    exact getElem?_ofFn inside
  · have outside : ¬a.shape.InBounds (k :: i) := by
      intro whole
      unfold extent at lt
      match shape : a.shape, whole, inside with
      | _ :: _, whole, inside => exact inside whole.2
    rw [getElem?_eq_none outside]
    exact getElem?_eq_none inside

theorem getElem?_toList {a : Tensor α} {n : Nat} (shape : a.shape = [n]) (k : Nat) : a.toList[k]? = a[[k]]? := by
  by_cases lt : k < n
  · have inside : Shape.InBounds [n] [k] := ⟨lt, trivial⟩
    have place : Shape.offset [n] [k] = k := by simp [Shape.offset]
    have entry := getElem?_toList_offset shape inside
    rw [place] at entry
    rw [entry, getElem?_eq, dif_pos (shape ▸ inside)]
  · have outside : ¬a.shape.InBounds [k] := by simp [shape, Shape.InBounds, lt]
    have beyond : a.toList.length ≤ k := by simpa [toList, size_eq, shape] using lt
    rw [getElem?_eq_none outside, List.getElem?_eq_none beyond]

theorem getElem?_toList_of_row {a row : Tensor α} {k n columns : Nat} (shape : a.shape = [n, columns])
    (here : a.rows[k]? = some row) (j : Nat) : row.toList[j]? = a[[k, j]]? := by
  rw [getElem?_rows, row?] at here
  split at here
  · rename_i lt
    obtain rfl := Option.some.inj here
    have width : (a.row k lt).shape = [columns] := by rw [shape_row, shape]; rfl
    rw [getElem?_toList width, getElem?_row]
  · cases here

theorem getElem?_modify (a : Tensor α) (i j : List Nat) (f : α → α) :
    (a.modify i f)[j]? = if i = j then a[j]?.map f else a[j]? := by
  by_cases hj : a.shape.InBounds j
  · have modified : (a.modify i f)[j]? = (a.modify i f).data[a.shape.offset j]? := getElem?_eq_data hj
    rw [modified, getElem?_eq_data hj]
    by_cases hi : a.shape.InBounds i
    · have data : (a.modify i f).data = a.data.modify (a.shape.offset i) f := if_pos hi
      rw [data, Array.getElem?_modify]
      by_cases same : i = j
      · rw [if_pos same, if_pos (congrArg _ same)]
      · have apart : a.shape.offset i ≠ a.shape.offset j := fun eq => same <| by
          rw [← Shape.subscript_offset hi, eq, Shape.subscript_offset hj]
        rw [if_neg same, if_neg apart]
    · have data : (a.modify i f).data = a.data := if_neg hi
      have other : i ≠ j := fun same => hi (same.symm ▸ hj)
      rw [data, if_neg other]
  · have outside : (a.modify i f)[j]? = none := getElem?_eq_none hj
    rw [outside, getElem?_eq_none hj, Option.map_none, ite_self]

theorem getElem?_map {β : Type} (f : α → β) (a : Tensor α) (i : List Nat) : (a.map f)[i]? = a[i]?.map f := by
  by_cases h : a.shape.InBounds i
  · have mapped : (a.map f)[i]? = some ((a.map f).get i h) := dif_pos h
    have entry : a[i]? = some (a.get i h) := dif_pos h
    rw [mapped, entry, get_map, Option.map_some]
  · have mapped : (a.map f)[i]? = none := getElem?_eq_none h
    rw [mapped, getElem?_eq_none h, Option.map_none]

theorem getElem?_replicate {shape : Shape} {x : α} {i : List Nat} (h : shape.InBounds i) :
    (replicate shape x)[i]? = some x := by
  have lt : shape.offset i < shape.size := Shape.offset_lt h
  have entry : (replicate shape x)[i]? = (Array.replicate shape.size x)[shape.offset i]? := getElem?_eq_data h
  rw [entry, Array.getElem?_replicate, if_pos lt]

variable [Scalar R]

def addOnes (x : R) : Nat → R
  | 0 => x
  | n + 1 => addOnes (x + 1) n

/-- Adds one at each of some places, once for each time that a place occurs. -/
def tally (a : Tensor R) (places : List (List Nat)) : Tensor R :=
  places.foldl (fun counts place => counts.modify place (· + 1)) a

theorem shape_tally (a : Tensor R) (places : List (List Nat)) : (a.tally places).shape = a.shape := by
  induction places generalizing a with
  | nil => rfl
  | cons place places ih => exact ih (a.modify place (· + 1))

theorem getElem?_tally (a : Tensor R) (places : List (List Nat)) (i : List Nat) :
    (a.tally places)[i]? = a[i]?.map (addOnes · (places.count i)) := by
  induction places generalizing a with
  | nil => exact Option.map_id'.symm
  | cons place places ih =>
      refine (ih (a.modify place (· + 1))).trans ?_
      rw [getElem?_modify, List.count_cons]
      by_cases same : place = i
      · rw [if_pos same, if_pos (beq_iff_eq.2 same), Option.map_map]
        rfl
      · rw [if_neg same, if_neg fun eq => same (beq_iff_eq.1 eq), Nat.add_zero]

end Tensor

namespace Categorical
variable {R : Type} [Scalar R] {numValues : Nat}

def places (sample : Tensor Nat) : List (List Nat) :=
  sample.toList.zipIdx.map fun (value, column) => [value, column]

theorem foldlM_eq_ok {α β ε : Type} {f : β → α → Except ε β} {g : β → α → β} {xs : List α}
    (goes : ∀ c, ∀ x ∈ xs, f c x = .ok (g c x)) (c : β) : xs.foldlM f c = .ok (xs.foldl g c) := by
  induction xs generalizing c with
  | nil => rfl
  | cons x xs ih =>
      rw [List.foldlM_cons, goes c x (.head _)]
      exact ih (fun c y member => goes c y (.tail _ member)) (g c x)

theorem countSample_eq (counts : Tensor R) {sample : Tensor Nat} (known : ∀ x ∈ sample.toList, x < numValues) :
    countSample numValues counts sample = .ok (counts.tally (places sample)) := by
  rw [Tensor.tally, places, List.foldl_map]
  exact foldlM_eq_ok (fun _ x member => if_pos (known x.1 (List.fst_mem_of_mem_zipIdx member))) counts

theorem foldlM_countSample (counts : Tensor R) {rows : List (Tensor Nat)}
    (known : ∀ row ∈ rows, ∀ x ∈ row.toList, x < numValues) :
    rows.foldlM (countSample numValues) counts = .ok (counts.tally (rows.flatMap places)) := by
  rw [Tensor.tally, List.foldl_flatMap]
  exact foldlM_eq_ok (fun counts row member => countSample_eq counts (known row member)) counts

theorem fit_of_rows_eq_nil {elite : Tensor Nat} {columns : Nat} (layout : elite.shape = [0, columns]) :
    fit (R := R) elite numValues = .ok (.replicate [numValues, columns] 0) := by
  have height : elite.extent 0 = 0 := Tensor.extent_zero layout
  have width : elite.extent 1 = columns := by rw [Tensor.extent, layout]; rfl
  have none : elite.rows = [] := List.eq_nil_of_length_eq_zero (elite.length_rows.trans height)
  rw [fit, countValues_eq_foldlM, none, width, height]
  rfl

theorem count_zipIdx (xs : List Nat) (start value column : Nat) :
    ((xs.zipIdx start).map fun (x, i) => [x, i]).count [value, column] =
      if start ≤ column ∧ xs[column - start]? = some value then 1 else 0 := by
  induction xs generalizing start with
  | nil => simp
  | cons x xs ih =>
      rw [List.zipIdx_cons, List.map_cons, List.count_cons, ih (start + 1)]
      rcases Nat.lt_trichotomy start column with before | here | behind
      · obtain ⟨k, rfl⟩ : ∃ k, column = start + 1 + k := ⟨column - start - 1, by omega⟩
        have index : start + 1 + k - start = k + 1 := by omega
        have later : start ≤ start + 1 + k := by omega
        have other : ([x, start] == [value, start + 1 + k]) = false := by simp; omega
        simp [index, later, other]
      · subst here
        have further : ¬start + 1 ≤ start := by omega
        by_cases same : x = value <;> simp [same, further]
      · have other : ([x, start] == [value, column]) = false := by simp; omega
        have outside : ¬start ≤ column := by omega
        have further : ¬start + 1 ≤ column := by omega
        simp [outside, further, other]

theorem count_places (rows : List (Tensor Nat)) (value column : Nat) :
    (rows.flatMap places).count [value, column] = rows.countP fun row => row.toList[column]? = some value := by
  induction rows with
  | nil => rfl
  | cons row rows ih =>
      have first := count_zipIdx row.toList 0 value column
      rw [List.flatMap_cons, List.count_append, ih, List.countP_cons, places, first, Nat.add_comm]
      simp

theorem foldlM_eq_error_iff {α β ε : Type} {f : β → α → Except ε β} {refusal : α → Option ε}
    (refuses : ∀ c x e, f c x = .error e ↔ refusal x = some e) (xs : List α) (c : β) (e : ε) :
    xs.foldlM f c = .error e ↔ xs.findSome? refusal = some e := by
  induction xs generalizing c with
  | nil => simp [pure, Except.pure]
  | cons x xs ih =>
      rw [List.foldlM_cons, List.findSome?_cons]
      cases step : f c x with
      | error e' =>
          rw [(refuses c x e').1 step]
          change Except.error e' = .error e ↔ some e' = some e
          rw [Except.error.injEq, Option.some.injEq]
      | ok d =>
          cases refused : refusal x with
          | none => exact ih d
          | some e' => cases step.symm.trans ((refuses c x e').2 refused)

def refusal (numValues value : Nat) : Option PickError :=
  if value < numValues then none else some (.indexOutOfBounds value [numValues])

theorem refusal_eq_some_iff {x : Nat} {e : PickError} :
    refusal numValues x = some e ↔ numValues ≤ x ∧ e = .indexOutOfBounds x [numValues] := by
  grind [refusal]

theorem refusal_eq_none_iff {x : Nat} : refusal numValues x = none ↔ x < numValues := by
  grind [refusal]

theorem isSome_refusal_iff {x : Nat} : (refusal numValues x).isSome ↔ numValues ≤ x := by
  grind [refusal]

theorem countSample_eq_error_iff (numValues : Nat) (counts : Tensor R) (sample : Tensor Nat) (e : PickError) :
    countSample numValues counts sample = .error e ↔ sample.toList.findSome? (refusal numValues) = some e := by
  have refuses (counts : Tensor R) (x : Nat × Nat) (e : PickError) :
      (if x.1 < numValues then Except.ok (counts.modify [x.1, x.2] (· + 1))
        else .error (.indexOutOfBounds x.1 [numValues])) = .error e ↔ refusal numValues x.1 = some e := by
    unfold refusal
    split <;> simp
  have values : sample.toList.findSome? (refusal numValues) =
      sample.toList.zipIdx.findSome? fun x => refusal numValues x.1 := by
    conv => lhs; rw [← List.zipIdx_map_fst 0 sample.toList, List.findSome?_map]
    rfl
  rw [values]
  exact foldlM_eq_error_iff refuses _ counts e

theorem fit_eq_error_iff {elite : Tensor Nat} {e : PickError} :
    fit (R := R) elite numValues = .error e ↔
      elite.rows.findSome? (fun row => row.toList.findSome? (refusal numValues)) = some e := by
  have counts := foldlM_eq_error_iff (countSample_eq_error_iff (R := R) numValues) elite.rows
    (.replicate [numValues, elite.extent 1] 0) e
  rw [← counts, fit, countValues_eq_foldlM]
  cases elite.rows.foldlM (countSample numValues) (Tensor.replicate [numValues, elite.extent 1] (0 : R)) <;>
    simp [bind, Except.bind, pure, Except.pure]

theorem exists_fit_error_iff {elite : Tensor Nat} :
    (∃ e, fit (R := R) elite numValues = .error e) ↔ ∃ row ∈ elite.rows, ∃ x ∈ row.toList, numValues ≤ x := by
  simp only [fit_eq_error_iff, ← Option.isSome_iff_exists, List.findSome?_isSome_iff, isSome_refusal_iff]

theorem exists_fit {elite : Tensor Nat} {count columns : Nat} (shape : elite.shape = [count + 1, columns])
    (known : ∀ row ∈ elite.rows, ∀ x ∈ row.toList, x < numValues) :
    ∃ fitted : Tensor R, fit elite numValues = .ok fitted ∧ fitted.shape = [numValues, columns] ∧
      ∀ {value column : Nat}, value < numValues → column < columns →
        fitted[[value, column]]? = some (Tensor.addOnes 0 (elite.rows.countP fun row =>
          row.toList[column]? = some value) / ((count + 1 : Nat) : R)) := by
  have height : elite.extent 0 = count + 1 := Tensor.extent_zero shape
  have width : elite.extent 1 = columns := by rw [Tensor.extent, shape]; rfl
  refine ⟨((Tensor.replicate [numValues, columns] 0).tally (elite.rows.flatMap places)).map
    (· / ((count + 1 : Nat) : R)), ?_, Tensor.shape_tally _ _, fun {value column} hv hc => ?_⟩
  · rw [fit, countValues_eq_foldlM, foldlM_countSample _ known, height, width]
    rfl
  · have bound : Shape.InBounds [numValues, columns] [value, column] := ⟨hv, hc, trivial⟩
    rw [Tensor.getElem?_map, Tensor.getElem?_tally, Tensor.getElem?_replicate bound, count_places]
    rfl

end Categorical
end CrossEntropy
