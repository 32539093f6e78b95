namespace CrossEntropy

class Scalar (R : Type) extends Zero R, One R, NatCast R, Add R, Sub R, Mul R, Div R, Neg R, LT R, LE R where
  sqrt : R → R
  log : R → R
  floor : R → R
  /-- The whole part of a number that is not negative, zero for any other. -/
  toNat : R → Nat
  decLt : DecidableLT R
  decLe : DecidableLE R

attribute [reducible, instance] Scalar.decLt Scalar.decLe

def exponentField (x : Float) : Nat := x.toBits.toNat / 0x10000000000000 % 2048

/-- The greatest whole number that is not above a double. The bits of the fraction are cleared, which moves a negative
number towards zero; unless it was whole, its magnitude is then raised by one. -/
def floatFloor (x : Float) : Float :=
  if exponentField x < 1023 then if x < 0 then -1 else if 0 < x then 0 else x
  else
    -- The place of the units among the bits; infinities, and numbers too large for a fraction, stay as they are.
    let unit := Nat.pow 2 (1075 - exponentField x)
    let whole := x.toBits.toNat - x.toBits.toNat % unit
    Float.ofBits (.ofNat (if x < 0 ∧ whole ≠ x.toBits.toNat then whole + unit else whole))

instance : Scalar Float where
  natCast := Float.ofNat
  sqrt := Float.sqrt
  log := Float.log
  floor := floatFloor
  toNat x := x.toUInt64.toNat
  decLt := inferInstance
  decLe := inferInstance

end CrossEntropy
