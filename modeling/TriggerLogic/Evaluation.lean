import TriggerLogic.Context
import TriggerLogic.Expr

/-! The value of a bound tree for an event, with what finding it asks of the context: operands from
left to right, and only as far as the value needs. -/

namespace TriggerLogic

inductive Query where
  | hasSource (level : Level)
  | passed (level : Level) (index : Nat)
deriving DecidableEq, Repr

def Query.text : Query → String
  | hasSource level => level.word ++ "?"
  | passed level index => level.word ++ ":" ++ toString index

structure Verdict where
  value : Bool
  asked : List Query
deriving DecidableEq, Repr

namespace Verdict

def followedBy (go : Bool) (v : Verdict) (other : Verdict) : Verdict :=
  if v.value = go then ⟨other.value, v.asked ++ other.asked⟩ else v

end Verdict

namespace Leaf

def anyPassed (ctx : Context) (level : Level) : List Binding → Verdict
  | [] => ⟨false, []⟩
  | b :: bs =>
    let query := Query.passed level b.index
    if ctx.passed level b.index then ⟨true, [query]⟩
    else
      let v := anyPassed ctx level bs
      ⟨v.value, query :: v.asked⟩

def judge (ctx : Context) (l : Leaf) : Verdict :=
  if !l.bound then ⟨false, []⟩
  else if !ctx.hasSource l.level then ⟨false, [.hasSource l.level]⟩
  else
    let v := anyPassed ctx l.level l.bindings
    ⟨v.value, .hasSource l.level :: v.asked⟩

end Leaf

namespace Expr

def judge (ctx : Context) : Expr → Verdict
  | constant b => ⟨b, []⟩
  | leaf l => l.judge ctx
  | not e =>
    let v := e.judge ctx
    ⟨!v.value, v.asked⟩
  | and l r => (l.judge ctx).followedBy true (r.judge ctx)
  | or l r => (l.judge ctx).followedBy false (r.judge ctx)

def evaluate (ctx : Context) (e : Expr) : Bool :=
  (e.judge ctx).value

end Expr

end TriggerLogic
