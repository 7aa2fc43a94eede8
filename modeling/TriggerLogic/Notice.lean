import TriggerLogic.Level

namespace TriggerLogic

inductive Notice.Kind where
  | notFound
  | noMatch
deriving DecidableEq, Repr

structure Notice where
  pattern : String
  level : Level
  kind : Notice.Kind
  knownNames : List String
deriving DecidableEq, Repr

namespace Notice

def Kind.word : Kind → String
  | notFound => "not_found"
  | noMatch => "no_match"

def headline (n : Notice) : String :=
  match n.kind with
  | .notFound => "requested " ++ n.level.singular ++ " \"" ++ n.pattern ++ "\" does not exist"
  | .noMatch => "requested pattern \"" ++ n.pattern ++ "\" does not match any " ++ n.level.plural

def message (n : Notice) : String :=
  n.headline ++ " - known " ++ n.level.knownLabel ++ " are:" ++
    if n.knownNames.isEmpty then " (none)"
    else String.join (n.knownNames.map ("\n\t" ++ ·))

end Notice

end TriggerLogic
