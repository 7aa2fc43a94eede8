import TriggerLogic.Json.Expr
import TriggerLogic.Notice

namespace TriggerLogic.Notice

open Json

namespace Kind

def choices : List (String × Kind) :=
  [(notFound.word, notFound), (noMatch.word, noMatch)]

def readJson : Nat → Reader Kind :=
  readChoice choices

end Kind

def arity : String := "struct ResolutionNotice with 4 elements"

def readNames (room : Nat) : Reader (List String) :=
  readList (fun _ => readText "a string") room

def readFields (room : Nat) (s : List Char) : Result (Notice × List Char) := do
  let (pattern, s) ← element arity 0 (readText "a string") s
  let (level, s) ← element arity 1 (Level.readJson room) s
  let (kind, s) ← element arity 2 (Kind.readJson room) s
  let (knownNames, s) ← element arity 3 (readNames room) s
  return ({ pattern, level, kind, knownNames }, s)

structure Members where
  pattern : Option String := none
  level : Option Level := none
  kind : Option Kind := none
  knownNames : Option (List String) := none

def readMember (room : Nat) (key : String) (m : Members) (s : List Char) :
    Result (Members × List Char) := do
  match key with
  | "pattern" =>
    let (pattern, s) ← field key m.pattern (readText "a string") s
    return ({ m with pattern }, s)
  | "namespace" =>
    let (level, s) ← field key m.level (Level.readJson room) s
    return ({ m with level }, s)
  | "kind" =>
    let (kind, s) ← field key m.kind (Kind.readJson room) s
    return ({ m with kind }, s)
  | "known_names" =>
    let (knownNames, s) ← field key m.knownNames (readNames room) s
    return ({ m with knownNames }, s)
  | _ => ignored m s

def readMembers (room : Nat) (s : List Char) : Result (Notice × List Char) := do
  let (m, s) ← members (readMember room) (s.length + 1) true {} s
  let pattern ← require "pattern" m.pattern
  let level ← require "namespace" m.level
  let kind ← require "kind" m.kind
  let knownNames ← require "known_names" m.knownNames
  return ({ pattern, level, kind, knownNames }, s)

def readJson : Nat → Reader Notice :=
  readRecord "ResolutionNotice" readFields readMembers

def toJson (n : Notice) : String :=
  writeObject [("pattern", writeString n.pattern), ("namespace", n.level.toJson),
    ("kind", writeString n.kind.word), ("known_names", writeList writeString n.knownNames)]

end TriggerLogic.Notice
