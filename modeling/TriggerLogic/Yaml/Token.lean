import TriggerLogic.Yaml.Scalar

/-! Where a key may start is kept in mind until a `:` behind it tells that it was one; the mark is
then put into the tokens at that place. -/

namespace TriggerLogic.Yaml

inductive Token where
  | version (major minor : Nat)
  | tagHandle (handle uri : String)
  | documentStart
  | documentEnd
  | blockSequence
  | blockMapping
  | blockEnd
  | flowSequence
  | flowSequenceEnd
  | flowMapping
  | flowMappingEnd
  | blockEntry
  | flowEntry
  | key
  | value
  | alias (name : String)
  | anchor (name : String)
  | tag (handle suffix : String)
  | scalar (text : String) (plain : Bool)
deriving DecidableEq, Repr

structure KeyStart where
  required : Bool
  place : Nat
  index : Nat
  line : Nat
  column : Nat

structure Scanner where
  cursor : Cursor
  tokens : List Token := []
  count : Nat := 0
  indents : List Nat := []
  keys : List (Option KeyStart) := [none]
  keyAllowed : Bool := true

namespace Scanner

def flow (s : Scanner) : Nat :=
  s.keys.length - 1

def inFlow (s : Scanner) : Bool :=
  s.flow ≠ 0

def indent (s : Scanner) : Int :=
  match s.indents with
  | [] => -1
  | column :: _ => column

def emit (token : Token) (s : Scanner) : Scanner :=
  { s with tokens := token :: s.tokens, count := s.count + 1 }

def insert (place : Nat) (token : Token) (s : Scanner) : Scanner :=
  { s with tokens := s.tokens.insertIdx (s.count - place) token, count := s.count + 1 }

def moveTo (rest : List Char) (s : Scanner) : Scanner :=
  { s with cursor := s.cursor.moveTo rest }

def skip (n : Nat) (s : Scanner) : Scanner :=
  { s with cursor := s.cursor.move n }

def allowKey (allowed : Bool) (s : Scanner) : Scanner :=
  { s with keyAllowed := allowed }

def unindent (column : Int) (s : Scanner) : Scanner :=
  if s.inFlow then s
  else
    let closed := s.indents.takeWhile fun (i : Nat) => column < i
    { s with
      tokens := closed.map (fun _ => .blockEnd) ++ s.tokens
      count := closed.length + s.count
      indents := s.indents.drop closed.length }

def openBlock (column place : Nat) (token : Token) (s : Scanner) : Scanner :=
  if s.inFlow || column ≤ s.indent then s
  else { s.insert place token with indents := column :: s.indents }

def dropKey (s : Scanner) : Option Scanner :=
  match s.keys with
  | some k :: keys => if k.required then none else some { s with keys := none :: keys }
  | _ => some s

def saveKey (s : Scanner) : Option Scanner :=
  if !s.keyAllowed then some s
  else
    let c := s.cursor
    let start := { required := !s.inFlow && s.indent = c.column, place := s.count,
                   index := c.index, line := c.line, column := c.column }
    s.dropKey.map fun s => { s with keys := some start :: s.keys.tail }

def maxKeyLength : Nat := 1024

def dropStaleKeys (s : Scanner) : Option Scanner := do
  let keys ← s.keys.mapM fun key =>
    match key with
    | none => some none
    | some k =>
      if k.line < s.cursor.line || k.index + maxKeyLength < s.cursor.index then
        if k.required then none else some none
      else some (some k)
  some { s with keys }

inductive GapPlace where
  | lineStart
  | inLine
  | comment
deriving DecidableEq, Repr

def gap (inFlow : Bool) : GapPlace → Bool → Nat → List Char → Nat × Bool
  | _, allowed, n, [] => (n, allowed)
  | place, allowed, n, c :: s =>
    if isBreak c then gap inFlow .lineStart (allowed || !inFlow) (n + 1) s
    else if place = .comment then gap inFlow .comment allowed (n + 1) s
    else if place = .lineStart && c = '\ufeff' then gap inFlow .inLine allowed (n + 1) s
    else if c = ' ' || c = '\t' && (inFlow || !allowed) then
      gap inFlow .inLine allowed (n + 1) s
    else if c = '#' then gap inFlow .comment allowed (n + 1) s
    else (n, allowed)

def advance (s : Scanner) : Option Scanner := do
  let place := if s.cursor.column = 0 then GapPlace.lineStart else .inLine
  let (n, allowed) := gap s.inFlow place s.keyAllowed 0 s.cursor.rest
  let s ← ((s.skip n).allowKey allowed).dropStaleKeys
  some (s.unindent s.cursor.column)

def isTagChar (verbatim : Bool) (c : Char) : Bool :=
  isWordChar c || "%;/?:@&=+$.!~*'()".toList.contains c ||
    verbatim && (c = ',' || c = '[' || c = ']')

def tagBytes : List Char → Option (List UInt8)
  | [] => some []
  | '%' :: a :: b :: s => do
    let byte := 16 * (← hexDigit? a) + (← hexDigit? b)
    return byte.toUInt8 :: (← tagBytes s)
  | c :: s => if c = '%' then none else (tagBytes s).map (c.toNat.toUInt8 :: ·)

def tagChars (verbatim : Bool) (s : List Char) : Option (List Char × List Char) := do
  let bytes ← tagBytes (s.takeWhile (isTagChar verbatim))
  let text ← String.fromUTF8? ⟨bytes.toArray⟩
  return (text.toList, s.dropWhile (isTagChar verbatim))

def verbatimTag (s : List Char) : Option (Token × List Char) := do
  let (uri, rest) ← tagChars true s
  match rest with
  | '>' :: rest => if uri.isEmpty then none else some (.tag "" (String.ofList uri), rest)
  | _ => none

def shorthandTag (s : List Char) : Option (Token × List Char) := do
  let word := s.takeWhile isWordChar
  match s.dropWhile isWordChar with
  | '!' :: rest =>
    let (suffix, rest) ← tagChars false rest
    let handle := String.ofList ('!' :: word ++ ['!'])
    if suffix.isEmpty then none else some (.tag handle (String.ofList suffix), rest)
  | _ =>
    let (suffix, rest) ← tagChars false s
    some (if suffix.isEmpty then .tag "" "!" else .tag "!" (String.ofList suffix), rest)

def readTag (inFlow : Bool) (s : List Char) : Option (Token × List Char) := do
  let (token, rest) ← match s with
    | '<' :: s => verbatimTag s
    | s => shorthandTag s
  if atGap rest || inFlow && rest.head? = some ',' then some (token, rest) else none

def readName (s : List Char) : Option (String × List Char) :=
  let name := s.takeWhile isWordChar
  let rest := s.dropWhile isWordChar
  let ended := atGap rest || rest.head?.any fun c => "?:,]\x7d%@\x60".toList.contains c
  if name.isEmpty || !ended then none else some (String.ofList name, rest)

def readVersionNumber (s : List Char) : Option (Nat × List Char) :=
  let digits := s.takeWhile Char.isDigit
  if digits.isEmpty || 9 < digits.length then none
  else some (digits.foldl (fun n c => 10 * n + (c.toNat - '0'.toNat)) 0, s.dropWhile Char.isDigit)

def readVersion (s : List Char) : Option (Token × List Char) := do
  let (major, rest) ← readVersionNumber (s.dropWhile isBlank)
  match rest with
  | '.' :: rest =>
    let (minor, rest) ← readVersionNumber rest
    some (.version major minor, rest)
  | _ => none

def readHandle (s : List Char) : Option (List Char × List Char) :=
  match s with
  | '!' :: s =>
    let word := s.takeWhile isWordChar
    match s.dropWhile isWordChar with
    | '!' :: rest => some ('!' :: word ++ ['!'], rest)
    | rest => if word.isEmpty then some (['!'], rest) else none
  | _ => none

def readTagHandle (s : List Char) : Option (Token × List Char) := do
  let (handle, rest) ← readHandle (s.dropWhile isBlank)
  if !rest.head?.any isBlank then none
  else
    let (uri, rest) ← tagChars true (rest.dropWhile isBlank)
    if uri.isEmpty || !atGap rest then none
    else some (.tagHandle (String.ofList handle) (String.ofList uri), rest)

def readDirective (s : List Char) : Option (Token × List Char) := do
  let name := String.ofList (s.takeWhile isWordChar)
  let rest := s.dropWhile isWordChar
  if !atGap rest then none
  else
    let (token, rest) ←
      if name = "YAML" then readVersion rest
      else if name = "TAG" then readTagHandle rest
      else none
    some (token, ← restOfLine rest)

def takeOutermost (token : Token) (rest : List Char) (s : Scanner) : Option Scanner := do
  let s ← (s.unindent (-1)).dropKey
  some (((s.allowKey false).emit token).moveTo rest)

def takeFlowStart (token : Token) (s : Scanner) : Option Scanner := do
  let s ← s.saveKey
  some (({ s with keys := none :: s.keys, keyAllowed := true }.emit token).skip 1)

def takeFlowEnd (token : Token) (s : Scanner) : Option Scanner := do
  let s ← s.dropKey
  let keys := if s.inFlow then s.keys.tail else s.keys
  some (({ s with keys, keyAllowed := false }.emit token).skip 1)

def takeFlowEntry (s : Scanner) : Option Scanner := do
  let s ← s.dropKey
  some (((s.allowKey true).emit .flowEntry).skip 1)

def openHere (token : Token) (s : Scanner) : Option Scanner :=
  if s.inFlow then some s
  else if s.keyAllowed then some (s.openBlock s.cursor.column s.count token)
  else none

def takeBlockEntry (s : Scanner) : Option Scanner := do
  let s ← (← s.openHere .blockSequence).dropKey
  some (((s.allowKey true).emit .blockEntry).skip 1)

def takeKey (s : Scanner) : Option Scanner := do
  let s ← (← s.openHere .blockMapping).dropKey
  some (((s.allowKey (!s.inFlow)).emit .key).skip 1)

def takeValue (s : Scanner) : Option Scanner := do
  let s ← match s.keys with
    | some k :: keys =>
      let s := { s with keys := none :: keys }.insert k.place .key
      some ((s.openBlock k.column k.place .blockMapping).allowKey false)
    | _ => (s.openHere .blockMapping).map fun s => s.allowKey (!s.inFlow)
  some ((s.emit .value).skip 1)

def takeNode (read : Option (Token × List Char)) (s : Scanner) : Option Scanner := do
  let s ← s.saveKey
  let (token, rest) ← read
  some (((s.allowKey false).emit token).moveTo rest)

def scalarToken (isPlain : Bool) (text : List Char) : Token :=
  .scalar (String.ofList text) isPlain

def takeQuoted (read : Nat → List Char → Option (List Char × List Char)) (s : Scanner) :
    Option Scanner :=
  s.takeNode <| (read s.cursor.left (s.cursor.rest.drop 1)).map fun (text, rest) =>
    (scalarToken false text, rest)

def takePlain (s : Scanner) : Option Scanner := do
  let (text, rest, broken) ← plain s.inFlow (s.indent + 1).toNat s.cursor.left s.cursor.rest
  let s ← s.takeNode (some (scalarToken true text, rest))
  some (s.allowKey broken)

def takeBlock (literal : Bool) (s : Scanner) : Option Scanner := do
  let s ← s.dropKey
  let (text, rest) ← block literal s.indent s.cursor.left (s.cursor.rest.drop 1)
  some (((s.allowKey true).emit (scalarToken false text)).moveTo rest)

def isIndicator (c : Char) : Bool :=
  "-?:,[]\x7b\x7d#&*!|>'\"%@\x60".toList.contains c

def take (s : Scanner) : Option Scanner :=
  let text := s.cursor.rest
  let atStart := s.cursor.column = 0
  match text with
  | [] => some s
  | c :: rest =>
    if atStart && c = '%' then do
      let (token, rest) ← readDirective rest
      s.takeOutermost token rest
    else if atStart && atMarker '-' text then s.takeOutermost .documentStart (text.drop 3)
    else if atStart && atMarker '.' text then s.takeOutermost .documentEnd (text.drop 3)
    else if c = '[' then s.takeFlowStart .flowSequence
    else if c = '{' then s.takeFlowStart .flowMapping
    else if c = ']' then s.takeFlowEnd .flowSequenceEnd
    else if c = '}' then s.takeFlowEnd .flowMappingEnd
    else if c = ',' then s.takeFlowEntry
    else if c = '-' && atGap rest then s.takeBlockEntry
    else if c = '?' && (s.inFlow || atGap rest) then s.takeKey
    else if c = ':' && (s.inFlow || atGap rest) then s.takeValue
    else if c = '*' then s.takeNode ((readName rest).map fun (name, rest) => (.alias name, rest))
    else if c = '&' then s.takeNode ((readName rest).map fun (name, rest) => (.anchor name, rest))
    else if c = '!' then s.takeNode (readTag s.inFlow rest)
    else if c = '|' && !s.inFlow then s.takeBlock true
    else if c = '>' && !s.inFlow then s.takeBlock false
    else if c = '\'' then s.takeQuoted singleQuoted
    else if c = '"' then s.takeQuoted doubleQuoted
    else if !isIndicator c && !isGap c || c = '-' && !rest.head?.any isBlank ||
        !s.inFlow && (c = '?' || c = ':') && !atGap rest then
      s.takePlain
    else none

def run : Nat → Scanner → Option (List Token)
  | 0, _ => none
  | bound + 1, s => do
    let s ← s.advance
    if s.cursor.rest.isEmpty then
      let s ← (s.unindent (-1)).dropKey
      some s.tokens.reverse
    else run bound (← s.take)

end Scanner

def tokenize (text : String) : Option (List Token) :=
  let chars := text.toList
  if chars.all isAllowed then Scanner.run (chars.length + 1) { cursor := .start chars }
  else none

end TriggerLogic.Yaml
