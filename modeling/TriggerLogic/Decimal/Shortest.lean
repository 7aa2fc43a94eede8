/-! The shortest decimal text of a double: of the decimals that round to it the one with the fewest
digits, of those the nearest, and of two equally near ones the even one. -/

namespace TriggerLogic.Decimal

/-- A positive double `mantissa * 2 ^ exponent`, and whether the double below it is only half as far
away as the one above. -/
structure Magnitude where
  mantissa : Nat
  exponent : Int
  closeBelow : Bool
deriving DecidableEq, Repr

namespace Magnitude

def fractionBits : Nat := 52

def ofBits (bits : Nat) : Magnitude :=
  let fraction : Nat := bits % Nat.pow 2 fractionBits
  let biased : Nat := bits / Nat.pow 2 fractionBits % Nat.pow 2 11
  if biased = 0 then ⟨fraction, -1074, false⟩
  else ⟨fraction + Nat.pow 2 fractionBits, (biased : Int) - 1075, fraction = 0 && 1 < biased⟩

def quarter (v : Magnitude) : Nat × Nat :=
  if 2 ≤ v.exponent then (Nat.pow 2 (v.exponent - 2).toNat, 1) else (1, Nat.pow 2 (2 - v.exponent).toNat)

/-- The multiple of `10 ^ power` nearest to the double, as a multiple, if it rounds to the double.
Halfway between two the even one is the nearest. The bounds themselves round to the double when its
mantissa is even. -/
def onGrid (v : Magnitude) (power : Int) : Option Nat :=
  let (num, den) := v.quarter
  let num := num * Nat.pow 10 (-power).toNat
  let den := den * Nat.pow 10 power.toNat
  let value := 4 * v.mantissa * num
  let low := (4 * v.mantissa - if v.closeBelow then 1 else 2) * num
  let high := (4 * v.mantissa + 2) * num
  let inside (n : Nat) : Bool :=
    if v.mantissa % 2 = 0 then low ≤ n * den && n * den ≤ high
    else low < n * den && n * den < high
  let below := value / den
  let twice := 2 * (value - below * den)
  let near :=
    if twice < den || twice = den && below % 2 = 0 then [below, below + 1] else [below + 1, below]
  near.find? fun n => 0 < n && inside n

def shortest (v : Magnitude) : Nat × Int :=
  let grids := (List.range 660).map fun (i : Nat) => (309 : Int) - i
  (grids.findSome? fun power => (v.onGrid power).map (·, power)).getD (0, 0)

end Magnitude

structure Layout where
  positional : Int × Int
  exponentMark : String

def zeros (n : Int) : String :=
  String.ofList (List.replicate n.toNat '0')

def Layout.place (layout : Layout) (digits : List Char) (lead : Int) : String :=
  let whole := String.ofList (digits.take (lead.toNat + 1))
  let fraction := String.ofList (digits.drop (lead.toNat + 1))
  if layout.positional.1 ≤ lead && lead ≤ layout.positional.2 then
    if lead < 0 then "0." ++ zeros (-lead - 1) ++ String.ofList digits
    else if fraction.isEmpty then whole ++ zeros (lead + 1 - digits.length) ++ ".0"
    else whole ++ "." ++ fraction
  else
    String.ofList (digits.take 1) ++ (if digits.length = 1 then "" else ".") ++
      String.ofList (digits.drop 1) ++
      (if lead < 0 then "e" else layout.exponentMark) ++ toString lead

def Layout.magnitude (layout : Layout) (v : Magnitude) : String :=
  if v.mantissa = 0 then "0.0"
  else
    let (n, power) := v.shortest
    let digits := Nat.toDigits 10 n
    layout.place digits (power + digits.length - 1)

def Layout.text (layout : Layout) (x : Float) : String :=
  let bits := x.toBits.toNat
  (if bits / Nat.pow 2 63 = 1 then "-" else "") ++ layout.magnitude (.ofBits bits)

end TriggerLogic.Decimal
