import CrossEntropy.Random.Uniform
import CrossEntropy.Random.ZigguratTable

/-!
Standard normals by the ziggurat. A word chooses a layer with its low byte and a point across it with
its high bits. A point inside the next layer is accepted at once, one in the widest layer beyond the
last edge is replaced by a draw from the tail, any other is accepted with the density above its layer.
-/

namespace CrossEntropy.Random

def attempts : Nat := 0x4000000000000000

namespace Ziggurat
variable {G : Type} [WordSource G]

def edges : Array Float := edgeBits.map Float.ofBits

def densities : Array Float := densityBits.map Float.ofBits

def edge (i : Nat) : Float := edges[i]?.getD 0

def density (i : Nat) : Float := densities[i]?.getD 0

def tailStart : Float := 3.654152885361008796

def tailDepth : Nat → G → Float × G
  | 0, g => (0, g)
  | n + 1, g =>
      let (a, g) := openUniform g
      let (b, g) := openUniform g
      let x := a.log / tailStart
      let y := b.log
      if -2.0 * y < x * x then tailDepth n g else (x, g)

def tail (side : Float) (g : G) : Float × G :=
  let (x, g) := tailDepth attempts g
  (if side < 0.0 then x - tailStart else tailStart - x, g)

def draw : Nat → G → Float × G
  | 0, g => (0, g)
  | n + 1, g =>
      let (w, g) := WordSource.nextWord g
      let layer := (w &&& 0xff).toNat
      let side := symmetricUniform w
      let x := side * edge layer
      if x.abs < edge (layer + 1) then (x, g)
      else if layer = 0 then tail side g
      else
        let (u, g) := uniform g
        if density (layer + 1) + (density layer - density (layer + 1)) * u < (-x * x / 2.0).exp then (x, g)
        else draw n g

end Ziggurat

def normal {G : Type} [WordSource G] (g : G) : Float × G := Ziggurat.draw attempts g

end CrossEntropy.Random
