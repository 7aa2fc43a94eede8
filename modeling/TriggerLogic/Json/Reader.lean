import TriggerLogic.Json.Skip

/-! Reading JSON into given types, strictly from left to right: the first thing that is wrong is the
answer. A reader is told how many containers may still be opened, where it opens any. -/

namespace TriggerLogic.Json

def maxDepth : Nat := 127

def found (s : List Char) : Result Found :=
  match s with
  | [] => .error .endOfText
  | 'n' :: rest => (takeWord ['u', 'l', 'l'] rest).map fun _ => .null
  | 't' :: rest => (takeWord ['r', 'u', 'e'] rest).map fun _ => .boolean true
  | 'f' :: rest => (takeWord ['a', 'l', 's', 'e'] rest).map fun _ => .boolean false
  | '"' :: rest => (readString rest).map fun (text, _) => .text text
  | '[' :: _ => .ok .sequence
  | '{' :: _ => .ok .map
  | c :: _ =>
    if c = '-' || c.isDigit then (readNumber s).map fun (n, _) => n.found
    else .error .malformed

def wrongType (expected : String) (s : List Char) : Problem :=
  match found s with
  | .error e => e
  | .ok value => .mismatch (.wrongType value expected)

def readBool (s : List Char) : Result (Bool × List Char) :=
  match skipBlanks s with
  | 't' :: rest => (takeWord ['r', 'u', 'e'] rest).map (true, ·)
  | 'f' :: rest => (takeWord ['a', 'l', 's', 'e'] rest).map (false, ·)
  | s => .error (wrongType "a boolean" s)

def readText (expected : String) (s : List Char) : Result (String × List Char) :=
  match skipBlanks s with
  | '"' :: rest => readString rest
  | s => .error (wrongType expected s)

def readIndex (s : List Char) : Result (Nat × List Char) :=
  match skipBlanks s with
  | [] => .error .endOfText
  | c :: rest =>
    if c = '-' || c.isDigit then
      match readNumber (c :: rest) with
      | .error e => .error e
      | .ok (.integer (.ofNat n), rest) => .ok (n, rest)
      | .ok (.integer n, _) => .error (.mismatch (.wrongValue (.integer n) "usize"))
      | .ok (n, _) => .error (.mismatch (.wrongType n.found "usize"))
    else .error (wrongType "usize" (c :: rest))

def takeNull (s : List Char) : Result (List Char) :=
  match skipBlanks s with
  | 'n' :: rest => takeWord ['u', 'l', 'l'] rest
  | s => .error (wrongType "unit" s)

def nextElement (first : Bool) (s : List Char) : Result (Option (List Char)) :=
  match skipBlanks s with
  | [] => .error .endOfText
  | ']' :: _ => .ok none
  | c :: rest =>
    if first then .ok (some (c :: rest))
    else if c = ',' then
      match skipBlanks rest with
      | [] => .error .endOfText
      | ']' :: _ => .error .malformed
      | rest => .ok (some rest)
    else .error .malformed

def nextKey (first : Bool) (s : List Char) : Result (List Char ⊕ List Char) :=
  match skipBlanks s with
  | [] => .error .endOfText
  | '}' :: rest => .ok (.inr rest)
  | c :: rest =>
    if first then if c = '"' then .ok (.inl rest) else .error .malformed
    else if c = ',' then (takeMark '"' rest).map .inl
    else .error .malformed

def elements (read : Reader α) : Nat → Bool → Reader (List α)
  | 0, _, _ => .error .endOfText
  | bound + 1, first, s => do
    match ← nextElement first s with
    | none => return ([], s)
    | some s =>
      let (a, s) ← read s
      let (as, s) ← elements read bound false s
      return (a :: as, s)

def readList (read : Nat → Reader α) (room : Nat) (s : List Char) :
    Result (List α × List Char) :=
  match skipBlanks s, room with
  | '[' :: _, 0 => .error .malformed
  | '[' :: s, room + 1 => do
    let (as, s) ← elements (read room) (s.length + 1) true s
    return (as, ← takeMark ']' s)
  | s, _ => .error (wrongType "a sequence" s)

def element (expected : String) (index : Nat) (read : Reader α) (s : List Char) :
    Result (α × List Char) := do
  match ← nextElement (index = 0) s with
  | none => .error (.mismatch (.wrongLength index expected))
  | some s => read s

def members (member : String → σ → Reader σ) : Nat → Bool → σ → Reader σ
  | 0, _, _, _ => .error .endOfText
  | bound + 1, first, state, s => do
    match ← nextKey first s with
    | .inr s => return (state, s)
    | .inl s =>
      let (key, s) ← readString s
      let (state, s) ← member key state s
      members member bound false state s

def field (name : String) (value : Option α) (read : Reader α) (s : List Char) :
    Result (Option α × List Char) :=
  match value with
  | some _ => .error (.mismatch (.duplicateField name))
  | none => do
    let (a, s) ← read (← takeMark ':' s)
    return (some a, s)

def ignored (state : σ) (s : List Char) : Result (σ × List Char) := do
  return (state, ← skipValue (← takeMark ':' s))

def require (name : String) (value : Option α) : Result α :=
  match value with
  | some a => .ok a
  | none => .error (.mismatch (.missingField name))

def readRecord (name : String) (list object : Nat → Reader α) (room : Nat)
    (s : List Char) : Result (α × List Char) :=
  match skipBlanks s, room with
  | '[' :: _, 0 | '{' :: _, 0 => .error .malformed
  | '[' :: s, room + 1 => do
    let (a, s) ← list room s
    return (a, ← takeMark ']' s)
  | '{' :: s, room + 1 => object room s
  | s, _ => .error (wrongType ("struct " ++ name) s)

def readKey (s : List Char) : Result (String × List Char) := do
  readString (← takeMark '"' s)

def variant (known : List (String × α)) (name : String) : Result α :=
  match known.lookup name with
  | some a => .ok a
  | none => .error (.mismatch (.unknownVariant name (known.map Prod.fst)))

def readChoice (known : List (String × α)) (room : Nat) (s : List Char) :
    Result (α × List Char) :=
  match skipBlanks s, room with
  | [], _ => .error .endOfText
  | '"' :: s, _ => do
    let (name, s) ← readString s
    return (← variant known name, s)
  | '{' :: s, _ + 1 => do
    let (name, s) ← readKey s
    let a ← variant known name
    let s ← takeNull (← takeMark ':' s)
    return (a, ← takeMark '}' s)
  | _, _ => .error .malformed

def readAll (read : Nat → Reader α) (text : String) : Result α := do
  let (a, s) ← read maxDepth text.toList
  if (skipBlanks s).isEmpty then return a else .error .malformed

end TriggerLogic.Json
