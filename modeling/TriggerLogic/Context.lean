import TriggerLogic.Policy

namespace TriggerLogic

structure Context where
  knownNames : Level → List String
  indexOf : Level → String → Option Nat
  passed : Level → Nat → Bool
  hasSource : Level → Bool
  policy : Policy := .strict
  /-- Whether the names may have changed since conditions were last bound. -/
  updated : Bool := true

namespace Context

def withPolicy (policy : Policy) (ctx : Context) : Context :=
  { ctx with policy := policy }

end Context

end TriggerLogic
