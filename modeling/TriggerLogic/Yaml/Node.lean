import TriggerLogic.Yaml.Token

/-! The document of a YAML text as a tree. An anchor takes as its number how many anchor names there
were before it, so a name that is used again shares its number with the next new name. -/

namespace TriggerLogic.Yaml

structure Scalar where
  text : String
  plain : Bool := true
  tag : Option String := none
deriving DecidableEq, Repr

inductive Node where
  | scalar (scalar : Scalar)
  | sequence (tag : Option String) (items : List Node)
  | mapping (tag : Option String) (entries : List (Node × Node))
  | alias (number : Nat)

namespace Node

def empty : Node :=
  scalar { text := "" }

end Node

structure Document where
  root : Node
  targets : List (Nat × Node)

def Document.resolve (d : Document) : Node → Option Node
  | .alias number => d.targets.lookup number
  | n => some n

structure Builder where
  tokens : List Token
  numbers : List (String × Nat) := []
  targets : List (Nat × Node) := []
  handles : List (String × String) := [("!", "!"), ("!!", "tag:yaml.org,2002:")]

abbrev Build := StateT Builder Option

namespace Builder

def peek : Build (Option Token) := do
  return (← get).tokens.head?

def drop : Build Unit :=
  modify fun b => { b with tokens := b.tokens.tail }

def fail : Build α :=
  StateT.lift none

def next (tokens : List Token) : Build Bool := do
  match ← peek with
  | none => return false
  | some t => return tokens.contains t

def expect (token : Token) : Build Unit := do
  if ← next [token] then drop else fail

def accept (token : Token) : Build Bool := do
  if ← next [token] then
    drop
    return true
  else return false

def properties : Build (Option String × Option (String × String)) := do
  match ← peek with
  | some (.anchor name) =>
    drop
    match ← peek with
    | some (.tag handle suffix) =>
      drop
      return (some name, some (handle, suffix))
    | _ => return (some name, none)
  | some (.tag handle suffix) =>
    drop
    match ← peek with
    | some (.anchor name) =>
      drop
      return (some name, some (handle, suffix))
    | _ => return (none, some (handle, suffix))
  | _ => return (none, none)

def resolveTag (tag : String × String) : Build String := do
  if tag.1.isEmpty then return tag.2
  match (← get).handles.lookup tag.1 with
  | some uri => return uri ++ tag.2
  | none => fail

def takeNumber (anchor : String) : Build Nat := do
  let b ← get
  let number := b.numbers.length
  set { b with numbers := (anchor, number) :: b.numbers.filter (·.1 ≠ anchor) }
  return number

/-- Keeps the node of a number, with `known` targets before it. A node inside it that took the same
number comes after it and is kept instead. -/
def keepTarget (number known : Nat) (n : Node) : Build Unit :=
  modify fun b =>
    let inside := b.targets.take (b.targets.length - known)
    if inside.any (·.1 = number) then b else { b with targets := (number, n) :: b.targets }

def bareTag : String := "!"

inductive Place where
  | block
  | mappingItem
  | flow
deriving DecidableEq

mutual

def node : Nat → Place → Build Node
  | 0, _ => fail
  | bound + 1, place => do
    match ← peek with
    | some (.alias name) =>
      drop
      match (← get).numbers.lookup name with
      | none => fail
      | some number => return .alias number
    | _ =>
      let (anchor, tag) ← properties
      let tag ← tag.mapM resolveTag
      let number ← anchor.mapM takeNumber
      let known := (← get).targets.length
      let n ← content bound place tag (anchor.isSome || tag.isSome)
      let _ ← number.mapM fun number => keepTarget number known n
      return n

def content : Nat → Place → Option String → Bool → Build Node
  | 0, _, _, _ => fail
  | bound + 1, place, tag, hasProperties => do
    match ← peek, place with
    | some .blockEntry, .mappingItem => return .sequence tag (← indentlessItems bound)
    | some (.scalar text plain), _ =>
      drop
      return .scalar { text, plain, tag := tag.filter (· ≠ bareTag) }
    | some .flowSequence, _ =>
      drop
      return .sequence tag (← flowItems bound true)
    | some .flowMapping, _ =>
      drop
      return .mapping tag (← flowEntries bound true)
    | some .blockSequence, .block | some .blockSequence, .mappingItem =>
      drop
      return .sequence tag (← blockItems bound)
    | some .blockMapping, .block | some .blockMapping, .mappingItem =>
      drop
      return .mapping tag (← blockEntries bound)
    | _, _ => if hasProperties then return .scalar { text := "", tag } else fail

def nodeUnless : Nat → Place → List Token → Build Node
  | 0, _, _ => fail
  | bound + 1, place, stops => do
    if ← next stops then return .empty else node bound place

def blockItems : Nat → Build (List Node)
  | 0 => fail
  | bound + 1 => do
    if ← accept .blockEnd then return []
    expect .blockEntry
    let item ← nodeUnless bound .block [.blockEntry, .blockEnd]
    return item :: (← blockItems bound)

def indentlessItems : Nat → Build (List Node)
  | 0 => fail
  | bound + 1 => do
    if ← accept .blockEntry then
      let item ← nodeUnless bound .block [.blockEntry, .key, .value, .blockEnd]
      return item :: (← indentlessItems bound)
    else return []

def blockEntries : Nat → Build (List (Node × Node))
  | 0 => fail
  | bound + 1 => do
    if ← accept .blockEnd then return []
    expect .key
    let key ← nodeUnless bound .mappingItem [.key, .value, .blockEnd]
    let value ←
      if ← accept .value then nodeUnless bound .mappingItem [.key, .value, .blockEnd]
      else pure .empty
    return (key, value) :: (← blockEntries bound)

def flowItems : Nat → Bool → Build (List Node)
  | 0, _ => fail
  | bound + 1, first => do
    if ← accept .flowSequenceEnd then return []
    if !first then expect .flowEntry
    if ← accept .flowSequenceEnd then return []
    let item ← flowItem bound
    return item :: (← flowItems bound false)

def flowItem : Nat → Build Node
  | 0 => fail
  | bound + 1 => do
    if ← accept .key then
      let key ←
        if ← next [.value, .flowEntry, .flowSequenceEnd] then
          drop
          pure .empty
        else node bound .flow
      let value ←
        if ← accept .value then nodeUnless bound .flow [.flowEntry, .flowSequenceEnd]
        else pure .empty
      return .mapping none [(key, value)]
    else node bound .flow

def flowEntries : Nat → Bool → Build (List (Node × Node))
  | 0, _ => fail
  | bound + 1, first => do
    if ← accept .flowMappingEnd then return []
    if !first then expect .flowEntry
    if ← accept .flowMappingEnd then return []
    let entry ← flowEntry bound
    return entry :: (← flowEntries bound false)

def flowEntry : Nat → Build (Node × Node)
  | 0 => fail
  | bound + 1 => do
    if ← accept .key then
      let key ← nodeUnless bound .flow [.value, .flowEntry, .flowMappingEnd]
      let value ←
        if ← accept .value then nodeUnless bound .flow [.flowEntry, .flowMappingEnd]
        else pure .empty
      return (key, value)
    else return (← node bound .flow, .empty)

end

def directives : Nat → Bool → List String → Build Unit
  | 0, _, _ => fail
  | bound + 1, versionSeen, handlesSeen => do
    match ← peek with
    | some (.version major minor) =>
      if versionSeen || major ≠ 1 || minor ≠ 1 && minor ≠ 2 then fail
      drop
      directives bound true handlesSeen
    | some (.tagHandle handle uri) =>
      if handlesSeen.contains handle then fail
      drop
      modify fun b => { b with handles := (handle, uri) :: b.handles }
      directives bound versionSeen (handle :: handlesSeen)
    | _ => return ()

def dropEnds : Build Unit :=
  modify fun b => { b with tokens := b.tokens.dropWhile (· = .documentEnd) }

def document (bound : Nat) : Build (Option Node) := do
  let root ← match ← peek with
    | none => return none
    | some (.version ..) | some (.tagHandle ..) | some .documentStart =>
      directives bound false []
      expect .documentStart
      match ← peek with
      | none | some (.version ..) | some (.tagHandle ..)
      | some .documentStart | some .documentEnd =>
        pure .empty
      | _ => node bound .block
    | _ => node bound .block
  dropEnds
  match ← peek with
  | none => return some root
  | some _ => fail

end Builder

def read (text : String) : Option (Option Document) := do
  let tokens ← tokenize text
  let (root, b) ← (Builder.document (4 * tokens.length + 4)).run { tokens }
  some (root.map fun root => { root, targets := b.targets })

end TriggerLogic.Yaml
