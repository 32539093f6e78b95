import CrossEntropy.Sampling.PickError

namespace CrossEntropy

namespace Shape

/-- The digits of a number in the radix of the axis lengths, the first axis least significant. -/
def digits : Shape → Nat → List Nat
  | [], _ => []
  | n :: s, k => k % n :: digits s (k / n)

def subscriptOfFlat (s : Shape) (index : Nat) : Except PickError (List Nat) :=
  if index < s.size then .ok (s.digits index) else .error (.indexOutOfBounds index s)

end Shape
end CrossEntropy
