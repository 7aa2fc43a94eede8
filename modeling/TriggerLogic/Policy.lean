import TriggerLogic.Level

namespace TriggerLogic

inductive Policy where
  | strict
  | lenient
deriving DecidableEq, Repr, Inhabited

namespace Policy

def word : Policy → String
  | strict => "strict"
  | lenient => "lenient"

def ofWord (w : String) : Except UnknownWord Policy :=
  if w = strict.word then .ok strict
  else if w = lenient.word then .ok lenient
  else .error (.policy w)

def isStrict : Policy → Bool
  | strict => true
  | lenient => false

end Policy

end TriggerLogic
