import CrossEntropy.Random.Ziggurat

namespace CrossEntropy.Random
variable {G : Type} [WordSource G]

def gammaWithin (d c : Float) : Nat → G → Float × G
  | 0, g => (0, g)
  | n + 1, g =>
      let (x, g) := normal g
      let root := 1.0 + c * x
      if root ≤ 0.0 then gammaWithin d c n g
      else
        let v := root * root * root
        let (u, g) := openUniform g
        let square := x * x
        if u < 1.0 - 0.0331 * square * square ∨ u.log < 0.5 * square + d * (1.0 - v + v.log) then (d * v, g)
        else gammaWithin d c n g

def gamma (shape : Float) (g : G) : Float × G :=
  let d := shape - 1.0 / 3.0
  gammaWithin d (1.0 / (9.0 * d).sqrt) attempts g

end CrossEntropy.Random
