import TriggerLogic.Level

namespace TriggerLogic

structure Binding where
  name : String
  index : Nat
deriving DecidableEq, Repr

structure Leaf where
  pattern : String
  level : Level
  bindings : List Binding := []
  bound : Bool := false
deriving DecidableEq, Repr

namespace Leaf

def ofName (name : String) : Leaf :=
  { pattern := name, level := Level.classify name }

def isGlob (l : Leaf) : Bool :=
  l.pattern.toList.any fun c => c = '*' || c = '?'

def bind (bindings : List Binding) (l : Leaf) : Leaf :=
  { l with bindings := bindings, bound := true }

def reset (l : Leaf) : Leaf :=
  { l with bindings := [], bound := false }

end Leaf

inductive Expr where
  | constant (value : Bool)
  | leaf (leaf : Leaf)
  | not (operand : Expr)
  | and (left right : Expr)
  | or (left right : Expr)
deriving DecidableEq, Repr

namespace Expr

def leaves : Expr → List Leaf
  | constant _ => []
  | leaf l => [l]
  | not e => e.leaves
  | and l r => l.leaves ++ r.leaves
  | or l r => l.leaves ++ r.leaves

def patterns (e : Expr) : List String :=
  e.leaves.map Leaf.pattern

def isBound (e : Expr) : Bool :=
  e.leaves.all Leaf.bound

def mapLeaves (f : Leaf → Leaf) : Expr → Expr
  | constant b => constant b
  | leaf l => leaf (f l)
  | not e => not (e.mapLeaves f)
  | and l r => and (l.mapLeaves f) (r.mapLeaves f)
  | or l r => or (l.mapLeaves f) (r.mapLeaves f)

def modifyLeaf (f : Leaf → Leaf) : Nat → Expr → Expr
  | _, constant b => constant b
  | n, leaf l => if n = 0 then leaf (f l) else leaf l
  | n, not e => not (e.modifyLeaf f n)
  | n, and l r =>
    if n < l.leaves.length then and (l.modifyLeaf f n) r
    else and l (r.modifyLeaf f (n - l.leaves.length))
  | n, or l r =>
    if n < l.leaves.length then or (l.modifyLeaf f n) r
    else or l (r.modifyLeaf f (n - l.leaves.length))

end Expr

end TriggerLogic
