import CrossEntropy.ShapeMismatch

namespace CrossEntropy

inductive PickError where
  | indexOutOfBounds (index : Nat) (shape : Shape)
  | axisOutOfRange (axis rank : Nat)
  | emptyAxis (axis : Nat)
  | drawShape (expected found : Shape)
  deriving DecidableEq, Repr

def PickError.message : PickError → String
  | indexOutOfBounds index shape =>
      "out of bounds: index=" ++ index.repr ++ " for shape=" ++ shape.text
  | axisOutOfRange axis rank =>
      "axis " ++ axis.repr ++ " is out of range for an array of rank " ++ rank.repr
  | emptyAxis axis => "cannot sample along axis " ++ axis.repr ++ ": it has length zero"
  | drawShape expected found =>
      "draws have shape " ++ found.text ++ ", expected " ++ expected.text

inductive SampleError where
  | pick (error : PickError)
  | notMatrix
  deriving DecidableEq, Repr

def SampleError.message : SampleError → String
  | pick e => e.message
  | notMatrix => "ShapeError/IncompatibleShape: incompatible shapes"

end CrossEntropy
