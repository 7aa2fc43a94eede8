import TriggerLogic.Expr
import TriggerLogic.Json.Reader
import TriggerLogic.Policy

namespace TriggerLogic

open Json

namespace Level

def choices : List (String × Level) :=
  [(path.word, path), (seed.word, seed)]

def readJson : Nat → Reader Level :=
  readChoice choices

def toJson (level : Level) : String :=
  writeString level.word

end Level

namespace Policy

def choices : List (String × Policy) :=
  [(strict.word, strict), (lenient.word, lenient)]

def readJson : Nat → Reader Policy :=
  readChoice choices

def toJson (policy : Policy) : String :=
  writeString policy.word

end Policy

namespace Json

def writeBool (b : Bool) : String :=
  if b then "true" else "false"

def writeList (write : α → String) (as : List α) : String :=
  "[" ++ ",".intercalate (as.map write) ++ "]"

def writeObject (members : List (String × String)) : String :=
  let written := members.map fun (key, value) => writeString key ++ ":" ++ value
  "\x7b" ++ ",".intercalate written ++ "\x7d"

end Json

namespace Binding

def arity : String := "struct Binding with 2 elements"

def readFields (s : List Char) : Result (Binding × List Char) := do
  let (name, s) ← element arity 0 (readText "a string") s
  let (index, s) ← element arity 1 readIndex s
  return (⟨name, index⟩, s)

structure Members where
  name : Option String := none
  index : Option Nat := none

def readMember (key : String) (m : Members) (s : List Char) : Result (Members × List Char) := do
  match key with
  | "name" =>
    let (name, s) ← field key m.name (readText "a string") s
    return ({ m with name }, s)
  | "index" =>
    let (index, s) ← field key m.index readIndex s
    return ({ m with index }, s)
  | _ => ignored m s

def readMembers (s : List Char) : Result (Binding × List Char) := do
  let (m, s) ← members readMember (s.length + 1) true {} s
  return (⟨← require "name" m.name, ← require "index" m.index⟩, s)

def readJson : Nat → Reader Binding :=
  readRecord "Binding" (fun _ => readFields) (fun _ => readMembers)

def toJson (b : Binding) : String :=
  writeObject [("name", writeString b.name), ("index", toString b.index)]

end Binding

namespace Leaf

def arity : String := "struct PathPattern with 4 elements"

def readFields (room : Nat) (s : List Char) : Result (Leaf × List Char) := do
  let (pattern, s) ← element arity 0 (readText "a string") s
  let (level, s) ← element arity 1 (Level.readJson room) s
  let (bindings, s) ← element arity 2 (readList Binding.readJson room) s
  let (bound, s) ← element arity 3 readBool s
  return ({ pattern, level, bindings, bound }, s)

structure Members where
  pattern : Option String := none
  level : Option Level := none
  bindings : Option (List Binding) := none
  bound : Option Bool := none

def readMember (room : Nat) (key : String) (m : Members) (s : List Char) :
    Result (Members × List Char) := do
  match key with
  | "pattern" =>
    let (pattern, s) ← field key m.pattern (readText "a string") s
    return ({ m with pattern }, s)
  | "namespace" =>
    let (level, s) ← field key m.level (Level.readJson room) s
    return ({ m with level }, s)
  | "bindings" =>
    let (bindings, s) ← field key m.bindings (readList Binding.readJson room) s
    return ({ m with bindings }, s)
  | "initialized" =>
    let (bound, s) ← field key m.bound readBool s
    return ({ m with bound }, s)
  | _ => ignored m s

def readMembers (room : Nat) (s : List Char) : Result (Leaf × List Char) := do
  let (m, s) ← members (readMember room) (s.length + 1) true {} s
  let pattern ← require "pattern" m.pattern
  let level ← require "namespace" m.level
  let bindings ← require "bindings" m.bindings
  let bound ← require "initialized" m.bound
  return ({ pattern, level, bindings, bound }, s)

def readJson : Nat → Reader Leaf :=
  readRecord "PathPattern" readFields readMembers

def toJson (l : Leaf) : String :=
  writeObject [("pattern", writeString l.pattern), ("namespace", l.level.toJson),
    ("bindings", writeList Binding.toJson l.bindings), ("initialized", writeBool l.bound)]

end Leaf

namespace Expr

inductive Variant where
  | constant
  | pattern
  | not
  | and
  | or
deriving DecidableEq, Repr

namespace Variant

def choices : List (String × Variant) :=
  [("Constant", constant), ("Pattern", pattern), ("Not", not), ("And", and), ("Or", or)]

def name : Variant → String
  | and => "Expression::And"
  | _ => "Expression::Or"

def bare : Variant → Mismatch
  | and | or => .wrongType .bareVariant "tuple variant"
  | _ => .wrongType .bareVariant "newtype variant"

end Variant

def readOperands (variant : Variant) (read : Reader Expr) (s : List Char) :
    Result (Expr × Expr × List Char) := do
  let arity := "tuple variant " ++ variant.name ++ " with 2 elements"
  let (left, s) ← element arity 0 read s
  let (right, s) ← element arity 1 read s
  return (left, right, ← takeMark ']' s)

def openOperands (variant : Variant) (s : List Char) : Result (List Char) :=
  match skipBlanks s with
  | '[' :: s => .ok s
  | s => .error (wrongType ("tuple variant " ++ variant.name) s)

def bareVariant (s : List Char) : Result (Expr × List Char) := do
  let (name, _) ← readString s
  let v ← variant Variant.choices name
  .error (.mismatch v.bare)

def readJson : Nat → Reader Expr
  | 0, s =>
    match skipBlanks s with
    | [] => .error .endOfText
    | '"' :: s => bareVariant s
    | _ => .error .malformed
  | room + 1, s =>
    match skipBlanks s with
    | [] => .error .endOfText
    | '"' :: s => bareVariant s
    | '{' :: s => do
      let (name, s) ← readKey s
      let v ← variant Variant.choices name
      let s ← takeMark ':' s
      let (e, s) ← match v with
        | .constant => (readBool s).map fun (b, s) => (constant b, s)
        | .pattern => (Leaf.readJson room s).map fun (l, s) => (leaf l, s)
        | .not => (readJson room s).map fun (e, s) => (not e, s)
        | .and | .or => do
          let s ← openOperands v s
          match room with
          | 0 => .error .malformed
          | room + 1 =>
            let (left, right, s) ← readOperands v (readJson room) s
            pure (if v = .and then and left right else or left right, s)
      return (e, ← takeMark '}' s)
    | _ => .error .malformed

def toJson : Expr → String
  | constant b => writeObject [("Constant", writeBool b)]
  | leaf l => writeObject [("Pattern", l.toJson)]
  | not e => writeObject [("Not", e.toJson)]
  | and l r => writeObject [("And", writeList id [l.toJson, r.toJson])]
  | or l r => writeObject [("Or", writeList id [l.toJson, r.toJson])]

end Expr

end TriggerLogic
