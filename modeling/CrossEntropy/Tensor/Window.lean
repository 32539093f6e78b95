import CrossEntropy.Tensor.Basic

/-!
Strided windows into a buffer: a window says at which place of the buffer its first entry lies and by
how many places a step along each axis moves, backwards where the stride is negative. Running sums are
taken in place, each slice along the axis being added into its successor from front to back; `cumsum`
does so in a copy of a whole array.
-/

namespace CrossEntropy
variable {α : Type}

structure Window where
  start : Int
  shape : Shape
  strides : List Int

namespace Window

def steps : List Nat → List Int → Int
  | k :: i, stride :: strides => k * stride + steps i strides
  | _, _ => 0

def place (w : Window) (i : List Nat) : Nat :=
  (w.start + steps i w.strides).toNat

def rowStrides : Shape → List Int
  | [] => []
  | _ :: s => (Shape.size s : Int) :: rowStrides s

def whole (shape : Shape) : Window := ⟨0, shape, rowStrides shape⟩

def dropFront (w : Window) (axis count : Nat) : Window where
  start := w.start + count * w.strides[axis]?.getD 0
  shape := w.shape.modify axis (· - count)
  strides := w.strides

def get? (w : Window) (buffer : Array α) (i : List Nat) : Option α := buffer[w.place i]?

def addInto [Add α] (w : Window) (buffer : Array α) (source target : List Nat) : Array α :=
  match w.get? buffer source with
  | some x => buffer.modify (w.place target) (· + x)
  | none => buffer

def addSlice [Add α] (w : Window) (axis : Nat) (buffer : Array α) (k : Nat) : Array α :=
  (Shape.subscripts (w.shape.eraseIdx axis)).foldl
    (fun buffer i => w.addInto buffer (i.insertIdx axis k) (i.insertIdx axis (k + 1))) buffer

/-- Replaces the entries along an axis by their running sums; an axis beyond the rank changes nothing.
A window without entries has nothing to add, however long its axes are. -/
def cumsum [Add α] (w : Window) (axis : Nat) (buffer : Array α) : Array α :=
  match w.shape[axis]? with
  | some n => if w.shape.size = 0 then buffer else (List.range (n - 1)).foldl (w.addSlice axis) buffer
  | none => buffer

theorem size_addInto [Add α] (w : Window) (buffer : Array α) (source target : List Nat) :
    (w.addInto buffer source target).size = buffer.size := by
  unfold addInto
  split <;> simp

theorem size_addSlice [Add α] (w : Window) (axis : Nat) (buffer : Array α) (k : Nat) :
    (w.addSlice axis buffer k).size = buffer.size := by
  unfold addSlice
  induction Shape.subscripts (w.shape.eraseIdx axis) generalizing buffer with
  | nil => rfl
  | cons i rest ih => rw [List.foldl_cons, ih, size_addInto]

theorem size_cumsum [Add α] (w : Window) (axis : Nat) (buffer : Array α) :
    (w.cumsum axis buffer).size = buffer.size := by
  unfold cumsum
  split
  · rename_i n _
    split
    · rfl
    · induction List.range (n - 1) generalizing buffer with
      | nil => rfl
      | cons k rest ih => rw [List.foldl_cons, ih, size_addSlice]
  · rfl

theorem addSlice_of_size_eq_zero [Add α] {w : Window} {axis : Nat}
    (h : Shape.size (w.shape.eraseIdx axis) = 0) (buffer : Array α) (k : Nat) :
    w.addSlice axis buffer k = buffer := by
  simp [addSlice, Shape.subscripts, h]

theorem cumsum_of_rank_le [Add α] {w : Window} {axis : Nat} (beyond : w.shape.length ≤ axis)
    (buffer : Array α) : w.cumsum axis buffer = buffer := by
  rw [cumsum, List.getElem?_eq_none beyond]

theorem cumsum_eq_foldl [Add α] {w : Window} {axis n : Nat} (h : w.shape[axis]? = some n)
    (buffer : Array α) : w.cumsum axis buffer = (List.range (n - 1)).foldl (w.addSlice axis) buffer := by
  simp only [cumsum, h]
  split
  · rename_i none
    rw [Shape.size_eq_mul_eraseIdx h] at none
    rcases Nat.mul_eq_zero.1 none with rfl | slice
    · rfl
    · induction List.range (n - 1) generalizing buffer with
      | nil => rfl
      | cons k rest ih => rw [List.foldl_cons, addSlice_of_size_eq_zero slice, ← ih]
  · rfl

end Window

namespace Tensor

def cumsum [Add α] (a : Tensor α) (axis : Nat) : Tensor α where
  shape := a.shape
  data := (Window.whole a.shape).cumsum axis a.data
  size_eq := (Window.size_cumsum _ _ _).trans a.size_eq

theorem cumsum_of_rank_le [Add α] {a : Tensor α} {axis : Nat} (beyond : a.rank ≤ axis) : a.cumsum axis = a :=
  Tensor.ext rfl (Window.cumsum_of_rank_le beyond a.data)

/-- The running sums along an axis, taken in place behind the first `count` slices of the array. -/
def cumsumBehind [Add α] (a : Tensor α) (count axis : Nat) : Tensor α where
  shape := a.shape
  data := ((Window.whole a.shape).dropFront 0 count).cumsum axis a.data
  size_eq := (Window.size_cumsum _ _ _).trans a.size_eq

end Tensor
end CrossEntropy
