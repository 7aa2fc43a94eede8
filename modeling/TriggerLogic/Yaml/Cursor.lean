namespace TriggerLogic.Yaml

def isBlank (c : Char) : Bool :=
  c = ' ' || c = '\t'

def isBreak (c : Char) : Bool :=
  c = '\r' || c = '\n' || c = '\x85' || c = '\u2028' || c = '\u2029'

def isGap (c : Char) : Bool :=
  isBlank c || isBreak c

def isWordChar (c : Char) : Bool :=
  c.isAlphanum || c = '_' || c = '-'

def isAllowed (c : Char) : Bool :=
  let n := c.toNat
  n = 0x09 || n = 0x0A || n = 0x0D || 0x20 ≤ n && n ≤ 0x7E || n = 0x85 ||
    0xA0 ≤ n && n ≤ 0xFFFD || 0x10000 ≤ n

def atGap : List Char → Bool
  | [] => true
  | c :: _ => isGap c

def atMarker (mark : Char) : List Char → Bool
  | a :: b :: c :: rest => a = mark && b = mark && c = mark && atGap rest
  | _ => false

def atDocument (s : List Char) : Bool :=
  atMarker '-' s || atMarker '.' s

structure Cursor where
  rest : List Char
  left : Nat
  index : Nat := 0
  line : Nat := 0
  column : Nat := 0

namespace Cursor

def start (text : List Char) : Cursor :=
  { rest := text, left := text.length }

def step (c : Cursor) : Cursor :=
  match c.rest with
  | [] => c
  | '\r' :: '\n' :: rest =>
    { c with rest := '\n' :: rest, left := c.left - 1, index := c.index + 1 }
  | ch :: rest =>
    let c := { c with rest, left := c.left - 1, index := c.index + ch.utf8Size }
    if isBreak ch then { c with line := c.line + 1, column := 0 }
    else { c with column := c.column + 1 }

def move : Nat → Cursor → Cursor
  | 0, c => c
  | n + 1, c => move n c.step

def moveTo (rest : List Char) (c : Cursor) : Cursor :=
  c.move (c.left - rest.length)

end Cursor

end TriggerLogic.Yaml
