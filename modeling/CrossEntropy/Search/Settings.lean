namespace CrossEntropy

structure Settings where
  numSamples : Nat := 0
  numElite : Nat := 0
  maxIters : Option Nat := none
  trackBest : Bool := false
  deriving DecidableEq, Repr

inductive SettingsError where
  | numSamples
  | numElite (numElite numSamples : Nat)
  deriving DecidableEq, Repr

def SettingsError.message : SettingsError → String
  | numSamples => "num_samples must be positive"
  | numElite elite samples =>
      "num_elite must be in 1..=" ++ samples.repr ++ ", got " ++ elite.repr

def Settings.validate (c : Settings) : Except SettingsError Unit :=
  if c.numSamples = 0 then .error .numSamples
  else if c.numElite = 0 ∨ c.numSamples < c.numElite then .error (.numElite c.numElite c.numSamples)
  else .ok ()

end CrossEntropy
