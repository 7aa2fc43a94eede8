import TriggerLogic.Context

namespace TriggerLogic

structure Signals where
  names : List String := []
  indices : List (String × Nat) := []
  results : List Bool := []
  available : Bool := false
deriving DecidableEq, Repr

namespace Signals

def indexOf (s : Signals) (name : String) : Option Nat :=
  s.indices.lookup name

def passed (s : Signals) (index : Nat) : Bool :=
  s.results.getD index false

def addName (s : Signals) (name : String) : Signals :=
  if (s.indexOf name).isSome then s
  else { s with names := s.names ++ [name], indices := (name, s.names.length) :: s.indices }

def setNames (names : List String) (s : Signals) : Signals :=
  let s := names.foldl addName { s with names := [], indices := [] }
  { s with results := s.names.map fun _ => false }

def setResults (bits : List Bool) (s : Signals) : Signals :=
  { s with
    results := (bits ++ s.names.map fun _ => false).take s.names.length
    available := true }

def setPassed (name : String) (bit : Bool) (s : Signals) : Signals :=
  match s.indexOf name with
  | some i => { s with results := s.results.set i bit, available := true }
  | none => { s with available := true }

def clearResults (s : Signals) : Signals :=
  { s with results := s.results.map fun _ => false, available := false }

end Signals

structure Table where
  paths : Signals := {}
  seeds : Signals := {}
  policy : Policy := .strict
  updated : Bool := true
deriving DecidableEq, Repr

namespace Table

def empty (policy : Policy) : Table :=
  { policy }

def signals (t : Table) : Level → Signals
  | .path => t.paths
  | .seed => t.seeds

def modify (level : Level) (f : Signals → Signals) (t : Table) : Table :=
  match level with
  | .path => { t with paths := f t.paths }
  | .seed => { t with seeds := f t.seeds }

def setNames (level : Level) (names : List String) (t : Table) : Table :=
  { t.modify level (Signals.setNames names) with updated := true }

def setResults (level : Level) (bits : List Bool) (t : Table) : Table :=
  t.modify level (Signals.setResults bits)

def isKnown (t : Table) (level : Level) (name : String) : Bool :=
  ((t.signals level).indexOf name).isSome

def setPassed (level : Level) (name : String) (bit : Bool) (t : Table) : Table × Bool :=
  (t.modify level (Signals.setPassed name bit), t.isKnown level name)

def setAvailable (level : Level) (available : Bool) (t : Table) : Table :=
  t.modify level fun s => { s with available := available }

def clearResults (t : Table) : Table :=
  { t with paths := t.paths.clearResults, seeds := t.seeds.clearResults }

def setPolicy (policy : Policy) (t : Table) : Table :=
  { t with policy := policy }

def acknowledge (t : Table) : Table :=
  { t with updated := false }

def context (t : Table) : Context where
  knownNames level := (t.signals level).names
  indexOf level := (t.signals level).indexOf
  passed level := (t.signals level).passed
  hasSource level := (t.signals level).available
  policy := t.policy
  updated := t.updated

end Table

end TriggerLogic
