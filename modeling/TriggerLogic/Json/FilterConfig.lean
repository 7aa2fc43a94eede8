import TriggerLogic.Filter
import TriggerLogic.Json.Expr

namespace TriggerLogic.FilterConfig

open Json

def readConditions (room : Nat) : Reader (List String) :=
  readList (fun _ => readText "a string") room

def readPolicy (room : Nat) (s : List Char) : Result (Option Policy × List Char) :=
  match skipBlanks s with
  | 'n' :: s => (takeWord ['u', 'l', 'l'] s).map (none, ·)
  | s => (Policy.readJson room s).map fun (policy, s) => (some policy, s)

def elementOr (default : α) (first : Bool) (read : Reader α)
    (s : List Char) : Result (α × List Char) := do
  match ← nextElement first s with
  | none => return (default, s)
  | some s => read s

def readFields (room : Nat) (s : List Char) : Result (FilterConfig × List Char) := do
  let (conditions, s) ← elementOr [] true (readConditions room) s
  let (policy, s) ← elementOr none false (readPolicy room) s
  return ({ conditions, policy }, s)

structure Members where
  conditions : Option (List String) := none
  policy : Option (Option Policy) := none

def readMember (room : Nat) (key : String) (m : Members) (s : List Char) :
    Result (Members × List Char) := do
  match key with
  | "trigger_conditions" =>
    let (conditions, s) ← field key m.conditions (readConditions room) s
    return ({ m with conditions }, s)
  | "failure_policy" =>
    let (policy, s) ← field key m.policy (readPolicy room) s
    return ({ m with policy }, s)
  | _ => ignored m s

def readMembers (room : Nat) (s : List Char) : Result (FilterConfig × List Char) := do
  let (m, s) ← members (readMember room) (s.length + 1) true {} s
  return ({ conditions := m.conditions.getD [], policy := m.policy.getD none }, s)

def readJson : Nat → Reader FilterConfig :=
  readRecord "FilterConfig" readFields readMembers

def ofJson (text : String) : Result FilterConfig :=
  readAll readJson text

def toJson (config : FilterConfig) : String :=
  writeObject <|
    ("trigger_conditions", writeList writeString config.conditions) ::
      match config.policy with
      | some policy => [("failure_policy", policy.toJson)]
      | none => []

end TriggerLogic.FilterConfig
