import TriggerLogic.Expr
import TriggerLogic.Token

/-! `NOT` binds tighter than `AND`, `AND` tighter than `OR`, and both chain to the left. Each rule
returns what it leaves of the tokens with the bound on its length that makes the descent end. -/

namespace TriggerLogic

inductive ParseError where
  | lexical (error : LexError)
  | empty
  | missingOperand (operator : Operator) (position : Nat)
  | unexpected (found : Token.Kind) (position : Nat)
  | unbalanced (position : Nat)
  | trailing (found : Token.Kind) (position : Nat)
deriving DecidableEq, Repr

namespace ParseError

def expected : String := "an operand"

def message : ParseError → String
  | lexical e => "Lexical error: " ++ e.message
  | empty => "Empty expression"
  | missingOperand op p => "Missing operand after '" ++ op.word ++ "' at offset " ++ toString p
  | unexpected k p =>
    "Unexpected " ++ k.display ++ " at offset " ++ toString p ++ ", expected " ++ expected
  | unbalanced p => "Unbalanced parenthesis at offset " ++ toString p
  | trailing k p => "Unexpected trailing " ++ k.display ++ " at offset " ++ toString p

end ParseError

namespace Parse

abbrev Shorter (ts : List Token) := { rest : List Token // rest.length < ts.length }

abbrev NoLonger (ts : List Token) := { rest : List Token // rest.length ≤ ts.length }

def peek (ts : List Token) : Token :=
  ts.headD ⟨.stop, 0⟩

def lacksOperand (ts : List Token) : Bool :=
  match (peek ts).kind with
  | .operator op => op.isBinary
  | .closeParen | .stop => true
  | _ => false

mutual

def disjunction (ts : List Token) : Except ParseError (Expr × Shorter ts) :=
  match conjunction ts with
  | .error e => .error e
  | .ok (left, ⟨mid, hm⟩) =>
    match orChain left mid with
    | .error e => .error e
    | .ok (e, ⟨rest, hr⟩) => .ok (e, ⟨rest, by omega⟩)
termination_by 6 * ts.length + 4

def orChain (left : Expr) (ts : List Token) : Except ParseError (Expr × NoLonger ts) :=
  match ts with
  | ⟨.operator .or, p⟩ :: ts' =>
    if lacksOperand ts' then .error (.missingOperand .or p)
    else match conjunction ts' with
      | .error e => .error e
      | .ok (right, ⟨mid, hm⟩) =>
        match orChain (.or left right) mid with
        | .error e => .error e
        | .ok (e, ⟨rest, hr⟩) => .ok (e, ⟨rest, by simp only [List.length_cons]; omega⟩)
  | ts => .ok (left, ⟨ts, Nat.le_refl _⟩)
termination_by 6 * ts.length + 5

def conjunction (ts : List Token) : Except ParseError (Expr × Shorter ts) :=
  match unary ts with
  | .error e => .error e
  | .ok (left, ⟨mid, hm⟩) =>
    match andChain left mid with
    | .error e => .error e
    | .ok (e, ⟨rest, hr⟩) => .ok (e, ⟨rest, by omega⟩)
termination_by 6 * ts.length + 2

def andChain (left : Expr) (ts : List Token) : Except ParseError (Expr × NoLonger ts) :=
  match ts with
  | ⟨.operator .and, p⟩ :: ts' =>
    if lacksOperand ts' then .error (.missingOperand .and p)
    else match unary ts' with
      | .error e => .error e
      | .ok (right, ⟨mid, hm⟩) =>
        match andChain (.and left right) mid with
        | .error e => .error e
        | .ok (e, ⟨rest, hr⟩) => .ok (e, ⟨rest, by simp only [List.length_cons]; omega⟩)
  | ts => .ok (left, ⟨ts, Nat.le_refl _⟩)
termination_by 6 * ts.length + 3

def unary (ts : List Token) : Except ParseError (Expr × Shorter ts) :=
  match ts with
  | ⟨.operator .not, p⟩ :: ts' =>
    if lacksOperand ts' then .error (.missingOperand .not p)
    else match unary ts' with
      | .error e => .error e
      | .ok (e, ⟨rest, hr⟩) => .ok (.not e, ⟨rest, by simp only [List.length_cons]; omega⟩)
  | ts => primary ts
termination_by 6 * ts.length + 1

def primary (ts : List Token) : Except ParseError (Expr × Shorter ts) :=
  match ts with
  | ⟨.constant value, _⟩ :: rest => .ok (.constant value, ⟨rest, by simp⟩)
  | ⟨.name text, _⟩ :: rest => .ok (.leaf (.ofName text), ⟨rest, by simp⟩)
  | ⟨.openParen, p⟩ :: ts' =>
    match disjunction ts' with
    | .error e => .error e
    | .ok (e, ⟨⟨.closeParen, _⟩ :: rest, hr⟩) =>
      .ok (e, ⟨rest, by simp only [List.length_cons] at hr ⊢; omega⟩)
    | .ok _ => .error (.unbalanced p)
  | ts => .error (.unexpected (peek ts).kind (peek ts).position)
termination_by 6 * ts.length

end

def ofTokens (ts : List Token) : Except ParseError Expr :=
  if (peek ts).kind = .stop then .error .empty
  else match disjunction ts with
    | .error e => .error e
    | .ok (e, ⟨rest, _⟩) =>
      match peek rest with
      | ⟨.stop, _⟩ => .ok e
      | ⟨.closeParen, p⟩ => .error (.unbalanced p)
      | ⟨kind, p⟩ => .error (.trailing kind p)

end Parse

def Expr.parse (text : String) : Except ParseError Expr :=
  match tokenize text with
  | .error e => .error (.lexical e)
  | .ok ts => Parse.ofTokens ts

end TriggerLogic
