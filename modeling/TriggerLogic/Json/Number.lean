import TriggerLogic.Decimal.Shortest
import TriggerLogic.Json.Problem

namespace TriggerLogic.Json

inductive Number where
  | integer (value : Int)
  | double (value : Float)

def numberLayout : Decimal.Layout := ⟨(-5, 15), "e+"⟩

def Number.found : Number → Found
  | integer n => .integer n
  | double x => .decimal (numberLayout.text x)

namespace Number

def maxSignificand : Nat := UInt64.size - 1

def maxExponent : Nat := UInt32.size / 2 - 1

def maxPower : Nat := 308

def digitValue (c : Char) : Nat :=
  c.toNat - '0'.toNat

def digits (s : List Char) : List Char :=
  s.takeWhile Char.isDigit

def afterDigits (s : List Char) : List Char :=
  s.dropWhile Char.isDigit

def appendDigits : Nat → List Char → Nat × Nat
  | significand, [] => (significand, 0)
  | significand, c :: cs =>
    let next := significand * 10 + digitValue c
    if next ≤ maxSignificand then appendDigits next cs else (significand, cs.length + 1)

def power (n : Nat) : Float :=
  Float.ofScientific 1 false n

def scaleDown (x : Float) (n : Nat) : Float :=
  if n ≤ maxPower then x / power n
  else if x == 0 then x
  else scaleDown (x / power maxPower) (n - maxPower)
termination_by n
decreasing_by
  have : maxPower = 308 := rfl
  omega

def scale (significand : Nat) (exponent : Int) : Result Float :=
  let x := significand.toUInt64.toFloat
  if exponent < 0 then .ok (scaleDown x (-exponent).toNat)
  else if x == 0 then .ok x
  else if maxPower < exponent.toNat then .error .malformed
  else
    let y := x * power exponent.toNat
    if y.isInf then .error .malformed else .ok y

def lacksDigit (s : List Char) : Problem :=
  if s.isEmpty then .endOfText else .malformed

def exponentPart (significand : Nat) (start : Int) (s : List Char) : Result (Float × List Char) :=
  let (negative, s) :=
    match s with
    | '+' :: s => (false, s)
    | '-' :: s => (true, s)
    | s => (false, s)
  let n := (digits s).foldl (fun n c => n * 10 + digitValue c) 0
  let rest := afterDigits s
  if (digits s).isEmpty then .error (lacksDigit s)
  else if maxExponent < n then
    if significand = 0 || negative then .ok (0, rest) else .error .malformed
  else (scale significand (if negative then start - n else start + n)).map (·, rest)

def fractionPart (significand : Nat) (start : Int) (s : List Char) : Result (Float × List Char) :=
  let rest := afterDigits s
  if (digits s).isEmpty then .error (lacksDigit s)
  else
    let (significand, left) := appendDigits significand (digits s)
    let start := start - ((digits s).length - left : Nat)
    match rest with
    | 'e' :: rest | 'E' :: rest => exponentPart significand start rest
    | rest => (scale significand start).map (·, rest)

def ofInteger (negative : Bool) (significand : Nat) : Number :=
  if !negative then integer significand
  else if significand = 0 || UInt64.size / 2 < significand then double (-significand.toUInt64.toFloat)
  else integer (-significand)

def signed (negative : Bool) (x : Float) : Number :=
  double (if negative then -x else x)

def readUnsigned (negative : Bool) (s : List Char) : Result (Number × List Char) :=
  let ds := digits s
  let rest := afterDigits s
  if ds.isEmpty then .error (lacksDigit s)
  else if ds.head? = some '0' && 1 < ds.length then .error .malformed
  else
    let (significand, left) := appendDigits 0 ds
    match rest with
    | '.' :: rest =>
      (fractionPart significand left rest).map fun (x, rest) => (signed negative x, rest)
    | 'e' :: rest | 'E' :: rest =>
      (exponentPart significand left rest).map fun (x, rest) => (signed negative x, rest)
    | rest =>
      if left = 0 then .ok (ofInteger negative significand, rest)
      else (scale significand left).map fun x => (signed negative x, rest)

end Number

def readNumber : Reader Number
  | '-' :: s => Number.readUnsigned true s
  | s => Number.readUnsigned false s

end TriggerLogic.Json
