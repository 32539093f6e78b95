import CrossEntropy.Tensor.Subscript

namespace CrossEntropy

@[ext] structure Tensor (α : Type) where
  shape : Shape
  data : Array α
  size_eq : data.size = shape.size
  deriving DecidableEq

namespace Tensor
variable {α β γ : Type}

abbrev rank (a : Tensor α) : Nat := a.shape.length

/-- The length of an axis, zero beyond the rank. -/
def extent (a : Tensor α) (axis : Nat) : Nat := a.shape[axis]?.getD 0

def get (a : Tensor α) (i : List Nat) (h : a.shape.InBounds i) : α :=
  have : a.shape.offset i < a.data.size := a.size_eq ▸ Shape.offset_lt h
  a.data[a.shape.offset i]

instance : GetElem? (Tensor α) (List Nat) α fun a i => a.shape.InBounds i where
  getElem := get
  getElem? a i := if h : a.shape.InBounds i then some (a.get i h) else none

def ofFn (shape : Shape) (f : (i : List Nat) → shape.InBounds i → α) : Tensor α where
  shape
  data := Array.ofFn fun k : Fin shape.size => f (shape.subscript k) (Shape.inBounds_subscript k.2)
  size_eq := by simp

def ofList? (shape : Shape) (entries : List α) : Option (Tensor α) :=
  if h : entries.length = shape.size then some ⟨shape, entries.toArray, by simpa using h⟩ else none

def empty : Tensor α := ⟨[0], #[], rfl⟩

def scalar (x : α) : Tensor α := ⟨[], #[x], rfl⟩

def vector (entries : List α) : Tensor α := ⟨[entries.length], entries.toArray, by simp⟩

def replicate (shape : Shape) (x : α) : Tensor α := ⟨shape, Array.replicate shape.size x, by simp⟩

def toList (a : Tensor α) : List α := a.data.toList

def map (f : α → β) (a : Tensor α) : Tensor β := ⟨a.shape, a.data.map f, by simp [a.size_eq]⟩

def modify (a : Tensor α) (i : List Nat) (f : α → α) : Tensor α where
  shape := a.shape
  data := if a.shape.InBounds i then a.data.modify (a.shape.offset i) f else a.data
  size_eq := by split <;> simp [a.size_eq]

def transpose (a : Tensor α) : Tensor α :=
  ofFn a.shape.reverse fun i h =>
    a.get i.reverse (by simpa only [List.reverse_reverse] using h.reverse)

theorem getElem_eq_get (a : Tensor α) (i : List Nat) (h : a.shape.InBounds i) : a[i] = a.get i h := rfl

theorem getElem?_eq (a : Tensor α) (i : List Nat) :
    a[i]? = if h : a.shape.InBounds i then some (a.get i h) else none := rfl

instance : LawfulGetElem (Tensor α) (List Nat) α fun a i => a.shape.InBounds i where
  getElem?_def a i _ := by
    by_cases h : a.shape.InBounds i <;> simp [getElem_eq_get, h]

@[simp] theorem shape_ofFn (shape : Shape) (f : (i : List Nat) → shape.InBounds i → α) :
    (ofFn shape f).shape = shape := rfl

@[simp] theorem get_ofFn {shape : Shape} {f : (i : List Nat) → shape.InBounds i → α} {i : List Nat}
    (h : shape.InBounds i) : (ofFn shape f).get i h = f i h := by
  simp only [get, ofFn, Array.getElem_ofFn, Shape.subscript_offset h]

@[simp] theorem getElem_ofFn {shape : Shape} {f : (i : List Nat) → shape.InBounds i → α} {i : List Nat}
    (h : (ofFn shape f).shape.InBounds i) : (ofFn shape f)[i] = f i h := get_ofFn h

theorem getElem?_ofFn {shape : Shape} {f : (i : List Nat) → shape.InBounds i → α} {i : List Nat}
    (h : shape.InBounds i) : (ofFn shape f)[i]? = some (f i h) := by
  rw [getElem?_eq, dif_pos (show (ofFn shape f).shape.InBounds i from h), get_ofFn h]

theorem data_getElem (a : Tensor α) (k : Nat) (h : k < a.data.size) :
    a.data[k] = a.get (a.shape.subscript k) (Shape.inBounds_subscript (a.size_eq ▸ h)) := by
  have lt : k < a.shape.size := a.size_eq ▸ h
  simp only [get, Shape.offset_subscript lt]

theorem ext_getElem {a b : Tensor α} (hs : a.shape = b.shape)
    (h : ∀ i, (ha : a.shape.InBounds i) → (hb : b.shape.InBounds i) → a[i] = b[i]) : a = b := by
  have sizes : a.data.size = b.data.size := by rw [a.size_eq, b.size_eq, hs]
  refine Tensor.ext hs (Array.ext sizes fun k ha hb => ?_)
  have ib : b.shape.InBounds (b.shape.subscript k) := Shape.inBounds_subscript (b.size_eq ▸ hb)
  rw [data_getElem a k ha, data_getElem b k hb]
  simp only [hs]
  exact h _ (hs ▸ ib) ib

@[simp] theorem shape_map (f : α → β) (a : Tensor α) : (a.map f).shape = a.shape := rfl

@[simp] theorem get_map (f : α → β) (a : Tensor α) (i : List Nat) (h : a.shape.InBounds i) :
    (a.map f).get i h = f (a.get i h) := by
  simp [get, map]

@[simp] theorem shape_transpose (a : Tensor α) : a.transpose.shape = a.shape.reverse := rfl

theorem inBounds_cons {a : Tensor α} {k : Nat} {i : List Nat} (hk : k < a.extent 0)
    (hi : Shape.InBounds a.shape.tail i) : a.shape.InBounds (k :: i) := by
  unfold extent at hk
  match a.shape, hk, hi with
  | _ :: _, hk, hi => exact ⟨by simpa using hk, hi⟩

def row (a : Tensor α) (k : Nat) (h : k < a.extent 0) : Tensor α :=
  ofFn a.shape.tail fun i hi => a.get (k :: i) (inBounds_cons h hi)

def row? (a : Tensor α) (k : Nat) : Option (Tensor α) := if h : k < a.extent 0 then some (a.row k h) else none

def rows (a : Tensor α) : List (Tensor α) := List.ofFn fun k : Fin (a.extent 0) => a.row k k.2

def stack (shape : Shape) (rows : List (Tensor α)) (h : ∀ r ∈ rows, r.shape = shape) : Tensor α where
  shape := rows.length :: shape
  data := (rows.flatMap toList).toArray
  size_eq := by
    induction rows with
    | nil => simp
    | cons r rows ih =>
        have rest := ih fun q hq => h q (.tail _ hq)
        simp only [List.size_toArray, Shape.size_cons] at rest
        simp [toList, r.size_eq, h r (.head _), rest, Nat.succ_mul, Nat.add_comm]

def stack? (shape : Shape) (rows : List (Tensor α)) : Option (Tensor α) :=
  if h : ∀ r ∈ rows, r.shape = shape then some (stack shape rows h) else none

def selectRows? (a : Tensor α) (chosen : List Nat) : Option (Tensor α) :=
  (chosen.mapM a.row?).bind (stack? a.shape.tail)

/-- The entries at a subscript whose coordinate on the given axis runs through the axis. -/
def lane (a : Tensor α) (axis : Nat) (i : List Nat) : List α :=
  (List.range (a.extent axis)).filterMap fun k => a[i.insertIdx axis k]?

def reduce (a : Tensor α) (axis : Nat) (f : List α → β) : Tensor β :=
  ofFn (a.shape.eraseIdx axis) fun i _ => f (a.lane axis i)

@[simp] theorem shape_row (a : Tensor α) (k : Nat) (h : k < a.extent 0) : (a.row k h).shape = a.shape.tail := rfl

theorem shape_of_mem_rows {a r : Tensor α} (h : r ∈ a.rows) : r.shape = a.shape.tail := by
  obtain ⟨k, rfl⟩ := List.mem_ofFn.1 h
  rfl

theorem toList_of_mem_rows {a r : Tensor α} (none : a.data.isEmpty) (h : r ∈ a.rows) : r.toList = [] := by
  obtain ⟨k, rfl⟩ := List.mem_ofFn.1 h
  rw [Tensor.toList, Array.toList_eq_nil_iff, ← Array.size_eq_zero_iff, size_eq, shape_row]
  refine Nat.eq_zero_of_not_pos fun pos => ?_
  have lt := Shape.offset_lt (inBounds_cons k.2 (Shape.inBounds_subscript pos))
  rw [← a.size_eq, Array.size_eq_zero_iff.2 (Array.isEmpty_iff.1 none)] at lt
  exact absurd lt (Nat.not_lt_zero _)

theorem length_rows (a : Tensor α) : a.rows.length = a.extent 0 := List.length_ofFn

theorem getElem?_rows (a : Tensor α) (k : Nat) : a.rows[k]? = a.row? k := by
  simp [rows, row?, List.getElem?_ofFn]

theorem length_lane {a : Tensor α} {axis : Nat} {i : List Nat}
    (h : Shape.InBounds (a.shape.eraseIdx axis) i) : (a.lane axis i).length = a.extent axis := by
  have entries : ∀ k ∈ List.range (a.extent axis), (a[i.insertIdx axis k]?).isSome := fun k hk => by
    rw [getElem?_eq, dif_pos (h.insertIdx (List.mem_range.1 hk))]
    rfl
  unfold lane
  have : ∀ ks : List Nat, (∀ k ∈ ks, (a[i.insertIdx axis k]?).isSome) →
      (ks.filterMap fun k => a[i.insertIdx axis k]?).length = ks.length := by
    intro ks
    induction ks with
    | nil => simp
    | cons k ks ih =>
        intro all
        obtain ⟨x, hx⟩ := Option.isSome_iff_exists.1 (all k (.head _))
        simp [hx, ih fun q hq => all q (.tail _ hq)]
  rw [this _ entries, List.length_range]

end Tensor
end CrossEntropy
