import TriggerLogic.Expr
import TriggerLogic.Token

/-! The canonical text of a tree: every operator in parentheses, bound leaves by the names they are
bound to, unbound ones by the placeholder of their level. -/

namespace TriggerLogic

def Leaf.dump (l : Leaf) : String :=
  if !l.bound then l.level.placeholder
  else match l.bindings with
    | [] => Token.Kind.constantWord false
    | [b] => b.name
    | b :: bs => "(" ++ bs.foldl (fun text b => text ++ " OR " ++ b.name) b.name ++ ")"

def Expr.dump : Expr → String
  | constant value => Token.Kind.constantWord value
  | leaf l => l.dump
  | not e => "(NOT " ++ e.dump ++ ")"
  | and l r => "(" ++ l.dump ++ " AND " ++ r.dump ++ ")"
  | or l r => "(" ++ l.dump ++ " OR " ++ r.dump ++ ")"

end TriggerLogic
