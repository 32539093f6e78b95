import CrossEntropy.Random.WordSource

namespace CrossEntropy

namespace ChaCha

abbrev Block := Vector UInt32 16

def rotateLeft (x count : UInt32) : UInt32 := x <<< count ||| x >>> (32 - count)

def mix (a b d : Fin 16) (count : UInt32) (v : Block) : Block :=
  let v := v.set a (v[a] + v[b])
  v.set d (rotateLeft (v[d] ^^^ v[a]) count)

def quarterRound (a b c d : Fin 16) (v : Block) : Block :=
  mix c d b 7 (mix a b d 8 (mix c d b 12 (mix a b d 16 v)))

def doubleRound (v : Block) : Block :=
  let v := quarterRound 0 4 8 12 v
  let v := quarterRound 1 5 9 13 v
  let v := quarterRound 2 6 10 14 v
  let v := quarterRound 3 7 11 15 v
  let v := quarterRound 0 5 10 15 v
  let v := quarterRound 1 6 11 12 v
  let v := quarterRound 2 7 8 13 v
  quarterRound 3 4 9 14 v

def constants : Vector UInt32 4 := #v[0x61707865, 0x3320646e, 0x79622d32, 0x6b206574]

def input (key : Vector UInt32 8) (counter : UInt64) : Block :=
  constants ++ key ++ #v[counter.toUInt32, (counter >>> 32).toUInt32, 0, 0]

def block (key : Vector UInt32 8) (counter : UInt64) : Block :=
  let v := input key counter
  Vector.zipWith (· + ·) (Nat.repeat doubleRound 6 v) v

def wordPairs (v : Block) : Vector UInt64 8 :=
  Vector.ofFn fun k : Fin 8 => v[2 * k.val].toUInt64 ||| v[2 * k.val + 1].toUInt64 <<< 32

end ChaCha

structure ChaCha where
  key : Vector UInt32 8
  counter : UInt64 := 0
  /-- What is left of the block before the one that the counter names. -/
  pending : List UInt64 := []

namespace ChaCha

instance : WordSource ChaCha where
  nextWord g :=
    match g.pending with
    | w :: rest => (w, { g with pending := rest })
    | [] =>
        let words := wordPairs (block g.key g.counter)
        (words[0], { g with counter := g.counter + 1, pending := words.toList.tail })

def ofKeyBytes (bytes : Vector UInt8 32) : ChaCha where
  key := Vector.ofFn fun k : Fin 8 =>
    bytes[4 * k.val].toUInt32 ||| bytes[4 * k.val + 1].toUInt32 <<< 8 |||
      bytes[4 * k.val + 2].toUInt32 <<< 16 ||| bytes[4 * k.val + 3].toUInt32 <<< 24

def expandStep (state : UInt64) : UInt32 × UInt64 :=
  let state := state * 6364136223846793005 + 11634580027462260723
  let mixed := (((state >>> 18) ^^^ state) >>> 27).toUInt32
  let turn := (state >>> 59).toUInt32
  (mixed >>> turn ||| mixed <<< ((32 - turn) % 32), state)

def expandSeed : Nat → UInt64 → List UInt32
  | 0, _ => []
  | n + 1, state => (expandStep state).1 :: expandSeed n (expandStep state).2

theorem length_expandSeed (n : Nat) (state : UInt64) : (expandSeed n state).length = n := by
  induction n generalizing state with
  | zero => rfl
  | succ n ih => simp [expandSeed, ih]

def ofSeed (seed : UInt64) : ChaCha where
  key := ⟨(expandSeed 8 seed).toArray, by simp [length_expandSeed]⟩

end ChaCha
end CrossEntropy
