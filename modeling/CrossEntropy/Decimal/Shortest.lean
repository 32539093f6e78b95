/-!
Doubles in decimal: the fewest digits that read back to the same double, the nearest of these, a tie
going upwards. The reals that round to a double form an interval around it, ends included when its
significand is even; decimals are compared with its ends in exact arithmetic.
-/

namespace CrossEntropy

structure Binary where
  significand : Nat
  exponent : Int
  /-- The next double below is only half as far away as the next above. -/
  narrowBelow : Bool

def Binary.ofBits (bits : UInt64) : Binary :=
  let biased := ((bits >>> 52) &&& 0x7ff).toNat
  let fraction := (bits &&& 0xfffffffffffff).toNat
  if biased = 0 then ⟨fraction, -1074, false⟩
  else ⟨0x10000000000000 + fraction, (biased : Int) - 1075, fraction = 0 ∧ 1 < biased⟩

structure Decimal where
  digits : Nat
  exponent : Int
  deriving DecidableEq, Repr

def Decimal.compareBinary (d : Decimal) (n : Nat) (e : Int) : Ordering :=
  compare (d.digits * Nat.pow 10 d.exponent.toNat * Nat.pow 2 (-e).toNat)
    (n * Nat.pow 2 e.toNat * Nat.pow 10 (-d.exponent).toNat)

/-- The decimal rounds to the double, halfway cases going to an even significand. -/
def Binary.readsBack (x : Binary) (d : Decimal) : Bool :=
  let below := if x.narrowBelow then 4 * x.significand - 1 else 4 * x.significand - 2
  let above := 4 * x.significand + 2
  let lower := d.compareBinary below (x.exponent - 2)
  let upper := d.compareBinary above (x.exponent - 2)
  if x.significand % 2 = 0 then lower ≠ .lt ∧ upper ≠ .gt else lower = .gt ∧ upper = .lt

def Binary.scale (x : Binary) : Int :=
  let estimate := ((x.significand.log2 : Int) + x.exponent) * 30103 / 100000
  ([estimate, estimate + 1].find? fun k =>
    Decimal.compareBinary ⟨1, k⟩ x.significand x.exponent = .gt).getD (estimate + 2)

/-- The nearest multiple of `10 ^ grid` that reads back, if a neighbour on this grid does. -/
def Binary.nearestOnGrid? (x : Binary) (grid : Int) : Option Decimal :=
  let num := x.significand * Nat.pow 2 x.exponent.toNat * Nat.pow 10 (-grid).toNat
  let den := Nat.pow 2 (-x.exponent).toNat * Nat.pow 10 grid.toNat
  let low : Decimal := ⟨num / den, grid⟩
  let high : Decimal := ⟨num / den + 1, grid⟩
  let order := if 2 * num < (low.digits + high.digits) * den then [low, high] else [high, low]
  order.find? x.readsBack

def Decimal.stripZeros : Nat → Decimal → Decimal
  | 0, d => d
  | n + 1, d => if d.digits % 10 = 0 then stripZeros n ⟨d.digits / 10, d.exponent + 1⟩ else d

def Binary.shortest (x : Binary) : Decimal :=
  let found := (List.range 17).findSome? fun n => x.nearestOnGrid? (x.scale - (n + 1 : Nat))
  (found.getD ⟨x.significand * Nat.pow 2 x.exponent.toNat * Nat.pow 5 (-x.exponent).toNat,
    -(-x.exponent).toNat⟩).stripZeros 1100

def Decimal.positional (d : Decimal) : String :=
  let digits := d.digits.repr
  if 0 ≤ d.exponent then digits ++ String.ofList (List.replicate d.exponent.toNat '0')
  else
    let places := (-d.exponent).toNat
    let padded := List.replicate (places + 1 - digits.length) '0' ++ digits.toList
    String.ofList (padded.take (padded.length - places)) ++ "." ++
      String.ofList (padded.drop (padded.length - places))

def floatText (x : Float) : String :=
  if x.isNaN then "NaN"
  else
    let magnitude := x.toBits &&& 0x7fffffffffffffff
    let text :=
      if magnitude = 0 then "0"
      else if magnitude = 0x7ff0000000000000 then "inf"
      else (Binary.ofBits magnitude).shortest.positional
    if x.toBits = magnitude then text else "-" ++ text

end CrossEntropy
