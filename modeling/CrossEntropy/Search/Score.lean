namespace CrossEntropy

class Score (S : Type) extends LE S, LT S where
  /-- No score is worse. -/
  worst : S
  isNaN : S → Bool
  sortLe : S → S → Bool
  decLe : DecidableLE S
  decLt : DecidableLT S

attribute [reducible, instance] Score.decLe Score.decLt

/-- The place of a double when doubles are sorted by sign and magnitude, `-0.0` right below `0.0`. -/
def floatRank (x : Float) : Int :=
  let signBit := 0x8000000000000000
  if x.toBits < signBit then .ofNat x.toBits.toNat else .negSucc (x.toBits - signBit).toNat

instance : Score Float where
  worst := 1.0 / 0.0
  isNaN := Float.isNaN
  sortLe x y := floatRank x ≤ floatRank y
  decLe := inferInstance
  decLt := inferInstance

end CrossEntropy
