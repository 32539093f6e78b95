namespace CrossEntropy

class WordSource (G : Type) where
  nextWord : G → UInt64 × G

structure Replay where
  words : Array UInt64
  taken : Nat := 0

instance : WordSource Replay where
  nextWord g :=
    let later := UInt64.ofNat (g.taken + 1) * 0x9E3779B97F4A7C15
    (g.words[g.taken]?.getD later, { g with taken := g.taken + 1 })

end CrossEntropy
