import CrossEntropy.Tensor.Subscript

namespace CrossEntropy

def Shape.text (s : Shape) : String := "[" ++ ", ".intercalate (s.map Nat.repr) ++ "]"

structure ShapeMismatch where
  subject : String
  left : Shape
  right : Shape
  deriving DecidableEq, Repr

namespace ShapeMismatch

def message (e : ShapeMismatch) : String :=
  e.subject ++ ": shapes " ++ e.left.text ++ " and " ++ e.right.text ++ " differ"

end ShapeMismatch
end CrossEntropy
