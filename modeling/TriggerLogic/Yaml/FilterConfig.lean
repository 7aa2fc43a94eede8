import TriggerLogic.Filter
import TriggerLogic.Yaml.Node

namespace TriggerLogic.Yaml

def isNullWord (text : String) : Bool :=
  ["", "~", "null", "Null", "NULL"].contains text

def localTag? (tag : Option String) : Option String :=
  match tag.map String.toList with
  | some ('!' :: c :: rest) => some (String.ofList (c :: rest))
  | some ['!'] => some "!"
  | _ => none

namespace Scalar

def isLeftOut (s : Scalar) : Bool :=
  s.plain && s.text.isEmpty

def nullTag : String := "tag:yaml.org,2002:null"

def policy? (s : Scalar) : Option Policy :=
  match localTag? s.tag with
  | some word => if s.plain && isNullWord s.text then (Policy.ofWord word).toOption else none
  | none => (Policy.ofWord s.text).toOption

def optionalPolicy? (s : Scalar) : Option (Option Policy) :=
  if s.plain && s.tag.isNone && isNullWord s.text then some none
  else if s.plain && s.tag = some nullTag then
    if s.text.isEmpty || !isNullWord s.text then none else some none
  else s.policy?.map some

end Scalar

namespace Document

def scalar? (d : Document) (n : Node) : Option Scalar := do
  match ← d.resolve n with
  | .scalar s => some s
  | _ => none

def text? (d : Document) (n : Node) : Option String :=
  (d.scalar? n).map Scalar.text

def texts? (d : Document) (n : Node) : Option (List String) := do
  match ← d.resolve n with
  | .sequence _ items => items.mapM d.text?
  | .scalar s => if s.isLeftOut then some [] else none
  | _ => none

def optionalPolicy? (d : Document) (n : Node) : Option (Option Policy) := do
  (← d.scalar? n).optionalPolicy?

end Document

end TriggerLogic.Yaml

namespace TriggerLogic.FilterConfig

open Yaml

structure Fields where
  conditions : Option (List String) := none
  policy : Option (Option Policy) := none

def Fields.add (d : Document) (fields : Fields) (entry : Node × Node) : Option Fields := do
  match ← d.text? entry.1 with
  | "trigger_conditions" =>
    if fields.conditions.isSome then none
    else some { fields with conditions := some (← d.texts? entry.2) }
  | "failure_policy" =>
    if fields.policy.isSome then none
    else some { fields with policy := some (← d.optionalPolicy? entry.2) }
  | _ => some fields

def ofDocument (d : Document) : Option FilterConfig :=
  match d.root with
  | .mapping _ entries => do
    let fields ← entries.foldlM (Fields.add d) {}
    some { conditions := fields.conditions.getD [], policy := fields.policy.getD none }
  | .scalar s => if s.isLeftOut then some {} else none
  | _ => none

def ofYaml (text : String) : Option FilterConfig := do
  match ← read text with
  | none => some {}
  | some d => ofDocument d

end TriggerLogic.FilterConfig
