import TriggerLogic.Json.Number
import TriggerLogic.Json.Text

namespace TriggerLogic.Json

def takeWord : List Char → List Char → Result (List Char)
  | [], s => .ok s
  | _ :: _, [] => .error .endOfText
  | c :: cs, d :: s => if c = d then takeWord cs s else .error .malformed

def takeMark (mark : Char) (s : List Char) : Result (List Char) :=
  match skipBlanks s with
  | [] => .error .endOfText
  | c :: rest => if c = mark then .ok rest else .error .malformed

def skipString : List Char → Result (List Char)
  | [] | ['\\'] => .error .endOfText
  | '"' :: rest => .ok rest
  | '\\' :: 'u' :: rest =>
    match hexEscape rest with
    | .error e => .error e
    | .ok _ => skipString rest
  | '\\' :: c :: rest =>
    if c = '/' || (letterEscapes.lookup c).isSome then skipString rest else .error .malformed
  | c :: rest => if isControl c then .error .malformed else skipString rest

def skipExponent (s : List Char) : Result (List Char) :=
  let s :=
    match s with
    | '+' :: s | '-' :: s => s
    | s => s
  if (Number.digits s).isEmpty then .error .malformed else .ok (Number.afterDigits s)

def skipFraction (s : List Char) : Result (List Char) :=
  if (Number.digits s).isEmpty then .error .malformed
  else match Number.afterDigits s with
    | 'e' :: s | 'E' :: s => skipExponent s
    | s => .ok s

def skipUnsigned (s : List Char) : Result (List Char) :=
  let ds := Number.digits s
  if ds.isEmpty || ds.head? = some '0' && 1 < ds.length then .error .malformed
  else match Number.afterDigits s with
    | '.' :: s => skipFraction s
    | 'e' :: s | 'E' :: s => skipExponent s
    | s => .ok s

inductive Bracket where
  | list
  | object
deriving DecidableEq, Repr

def skipKey (s : List Char) : Result (List Char) := do
  takeMark ':' (← skipString (← takeMark '"' s))

mutual

/-- Passes over a value that stands inside the opened brackets, and over all that closes them. The
first argument bounds the steps; one for each character is enough. -/
def skipInside : Nat → List Bracket → List Char → Result (List Char)
  | 0, _, _ => .error .endOfText
  | steps + 1, opened, s =>
    match skipBlanks s with
    | [] => .error .endOfText
    | '[' :: rest =>
      match skipBlanks rest with
      | ']' :: rest => skipBehind steps opened rest
      | rest => skipInside steps (.list :: opened) rest
    | '{' :: rest =>
      match skipBlanks rest with
      | '}' :: rest => skipBehind steps opened rest
      | rest =>
        match skipKey rest with
        | .error e => .error e
        | .ok rest => skipInside steps (.object :: opened) rest
    | c :: rest =>
      let behind :=
        if c = '"' then skipString rest
        else if c = 'n' then takeWord ['u', 'l', 'l'] rest
        else if c = 't' then takeWord ['r', 'u', 'e'] rest
        else if c = 'f' then takeWord ['a', 'l', 's', 'e'] rest
        else if c = '-' then skipUnsigned rest
        else if c.isDigit then skipUnsigned (c :: rest)
        else .error .malformed
      match behind with
      | .error e => .error e
      | .ok rest => skipBehind steps opened rest

def skipBehind : Nat → List Bracket → List Char → Result (List Char)
  | _, [], s => .ok s
  | 0, _, _ => .error .endOfText
  | steps + 1, bracket :: opened, s =>
    match skipBlanks s, bracket with
    | [], _ => .error .endOfText
    | ']' :: rest, .list => skipBehind steps opened rest
    | '}' :: rest, .object => skipBehind steps opened rest
    | ',' :: rest, .list => skipInside steps (bracket :: opened) rest
    | ',' :: rest, .object =>
      match skipKey rest with
      | .error e => .error e
      | .ok rest => skipInside steps (bracket :: opened) rest
    | _, _ => .error .malformed

end

def skipValue (s : List Char) : Result (List Char) :=
  skipInside (s.length + 1) [] s

end TriggerLogic.Json
