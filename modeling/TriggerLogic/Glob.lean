/-! Patterns over whole names: `*` stands for any run of characters, `?` for exactly one, and every
other character for itself. Neither wildcard stands for a line feed. -/

namespace TriggerLogic

inductive Glob.Piece where
  | anyRun
  | anyOne
  | literal (c : Char)
deriving DecidableEq, Repr

abbrev Glob := List Glob.Piece

namespace Glob

namespace Piece

def ofChar (c : Char) : Piece :=
  if c = '*' then anyRun
  else if c = '?' then anyOne
  else literal c

def isRegexOperator (c : Char) : Bool :=
  "\\.+*?()|[]\x7b\x7d^$#&-~".toList.contains c

def regex : Piece → List Char
  | anyRun => ['.', '*']
  | anyOne => ['.']
  | literal c => if isRegexOperator c then ['\\', c] else [c]

end Piece

def ofPattern (pattern : String) : Glob :=
  pattern.toList.map Piece.ofChar

def regexText (g : Glob) : List Char :=
  '^' :: (g.flatMap Piece.regex ++ ['$'])

def regex (g : Glob) : String :=
  String.ofList g.regexText

def isWild (c : Char) : Bool :=
  c ≠ '\n'

def Piece.accepts : Piece → Char → Bool
  | literal c, d => d = c
  | _, d => isWild d

def take : Glob → List Char → Option (List Char)
  | [], s => some s
  | p :: g, c :: s => if p.accepts c then take g s else none
  | _ :: _, [] => none

def takeFirst (g : Glob) : List Char → Option (List Char)
  | [] => take g []
  | c :: s =>
    match take g (c :: s) with
    | some rest => some rest
    | none => if isWild c then takeFirst g s else none

def fitsEnd (g : Glob) (s : List Char) : Bool :=
  let skipped := s.length - g.length
  g.length ≤ s.length && (s.take skipped).all isWild && take g (s.drop skipped) = some []

def split : Glob → Glob × List Glob
  | [] => ([], [])
  | p :: g =>
    let (first, more) := split g
    if p = .anyRun then ([], first :: more) else (p :: first, more)

/-- Matches what stands behind the runs. The last part has to end the name. Every other part is
taken where it fits first: a run that reaches further would lose nothing by stopping there. -/
def matchRuns : List Glob → List Char → Bool
  | [], s => s.isEmpty
  | [last], s => fitsEnd last s
  | g :: more, s =>
    match takeFirst g s with
    | some rest => matchRuns more rest
    | none => false

def isMatch (g : Glob) (name : String) : Bool :=
  let (first, more) := split g
  match take first name.toList with
  | some rest => matchRuns more rest
  | none => false

def filter (g : Glob) (names : List String) : List String :=
  names.filter g.isMatch

end Glob

end TriggerLogic
