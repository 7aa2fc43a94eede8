namespace TriggerLogic

inductive Level where
  | path
  | seed
deriving DecidableEq, Repr

inductive UnknownWord where
  | level (word : String)
  | policy (word : String)
deriving DecidableEq, Repr

def UnknownWord.message : UnknownWord → String
  | .level w => "Unknown namespace: " ++ w
  | .policy w => "Unknown failure policy: " ++ w

namespace Level

def placeholder : Level → String
  | path => "Uninitialised_Path_Expression"
  | seed => "Uninitialised_L1_Expression"

/-- Seeds are named `L1_` and at least one more character; every other name is a path. The
placeholder of a seed keeps its level. -/
def classify (name : String) : Level :=
  if name = placeholder seed then seed
  else match name.toList with
    | 'L' :: '1' :: '_' :: _ :: _ => seed
    | _ => path

def word : Level → String
  | path => "path"
  | seed => "l1_seed"

def ofWord (w : String) : Except UnknownWord Level :=
  if w = path.word then .ok path
  else if w = seed.word then .ok seed
  else .error (.level w)

def singular : Level → String
  | path => "HLT path"
  | seed => "L1 trigger"

def plural : Level → String
  | path => "HLT paths"
  | seed => "L1 triggers"

def knownLabel : Level → String
  | path => "paths"
  | seed => "L1 triggers"

end Level

end TriggerLogic
