import CrossEntropy.Random.WordSource

namespace CrossEntropy.Random
variable {G : Type} [WordSource G]

def uniform (g : G) : Float × G :=
  let (w, g) := WordSource.nextWord g
  -- The high 53 bits, as a multiple of 2⁻⁵³.
  ((w >>> 11).toFloat * Float.ofBits 0x3ca0000000000000, g)

def openUniform (g : G) : Float × G :=
  let (w, g) := WordSource.nextWord g
  -- The high 52 bits as the fraction of a double from one up to two, moved into the open interval below one.
  (Float.ofBits (w >>> 12 ||| 0x3ff0000000000000) - Float.ofBits 0x3fefffffffffffff, g)

def symmetricUniform (w : UInt64) : Float := Float.ofBits (w >>> 12 ||| 0x4000000000000000) - 3.0

end CrossEntropy.Random
