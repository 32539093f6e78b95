import CrossEntropy.Tensor.Window
import CrossEntropy.Random.Draws
import CrossEntropy.Random.Variates
import CrossEntropy.Sampling.FlatIndex
import CrossEntropy.Scalar

/-!
Picking indices by inversion. Along one axis, a draw picks the first index whose cumulative value
exceeds it, the last index if none does. `Cdf` functions take cumulative values, `Pmf` functions
probabilities, whose running sums they form. Each comes with draws given by the caller or taken from
a generator, one draw for each lane in row-major order; a refused array takes no draw.
-/

namespace CrossEntropy
variable {R G : Type} [Scalar R]

def firstExceeding (lane : List R) (draw : R) : Nat :=
  (lane.findIdx? fun cumulative => draw < cumulative).getD (lane.length - 1)

namespace Tensor

def checkAxis (a : Tensor R) (axis : Nat) : Except PickError Unit :=
  if a.rank ≤ axis then .error (.axisOutOfRange axis a.rank)
  else if a.extent axis = 0 then .error (.emptyAxis axis)
  else .ok ()

def pickCdfWith (cdf : Tensor R) (axis : Nat) (draws : Tensor R) : Except PickError (Tensor Nat) := do
  checkAxis cdf axis
  if draws.shape = cdf.shape.eraseIdx axis then
    return ofFn draws.shape fun i h => firstExceeding (cdf.lane axis i) (draws.get i h)
  else throw (.drawShape (cdf.shape.eraseIdx axis) draws.shape)

def pickPmfWith (pmf : Tensor R) (axis : Nat) (draws : Tensor R) : Except PickError (Tensor Nat) :=
  pickCdfWith (pmf.cumsum axis) axis draws

def pickCdf [Variates R G] (cdf : Tensor R) (axis : Nat) (g : G) :
    Except PickError (Tensor Nat) × G :=
  match checkAxis cdf axis with
  | .error e => (.error e, g)
  | .ok () =>
      let (draws, g) := fill (cdf.shape.eraseIdx axis) (Variates.uniform (R := R)) g
      (pickCdfWith cdf axis draws, g)

def pickPmf [Variates R G] (pmf : Tensor R) (axis : Nat) (g : G) :
    Except PickError (Tensor Nat) × G :=
  pickCdf (pmf.cumsum axis) axis g

/-- Picks a subscript of the whole array, its entries counted with the first axis fastest. -/
def pickSubscriptWith (pmf : Tensor R) (draw : R) : Except PickError (List Nat) := do
  let picked ← pickPmfWith (vector pmf.transpose.toList) 0 (scalar draw)
  pmf.shape.subscriptOfFlat (picked[([] : List Nat)]?.getD 0)

def pickSubscript [Variates R G] (pmf : Tensor R) (g : G) : Except PickError (List Nat) × G :=
  let (draw, g) := Variates.uniform g
  (pickSubscriptWith pmf draw, g)

end Tensor
end CrossEntropy
