import TriggerLogic.Yaml.Cursor

/-! Scalars of YAML texts. What a text does wrong is not told apart; such a scalar is `none`. -/

namespace TriggerLogic.Yaml

def breaks : List Char → List Char
  | [] => []
  | '\r' :: '\n' :: s => '\n' :: breaks s
  | c :: s =>
    if c = '\u2028' || c = '\u2029' then c :: breaks s
    else if isBreak c then '\n' :: breaks s
    else breaks s

def fold (gap : List Char) : List Char :=
  match breaks gap with
  | [] => gap
  | ['\n'] => [' ']
  | '\n' :: more => more
  | kept => kept

def columnBehind (gap : List Char) : Nat :=
  (gap.reverse.takeWhile fun c => !isBreak c).length

def tabBefore (indent : Nat) : Option Nat → List Char → Bool
  | _, [] => false
  | column, c :: s =>
    if isBreak c then tabBefore indent (some 0) s
    else match column with
      | none => tabBefore indent none s
      | some k => c = '\t' && k < indent || tabBefore indent (some (k + 1)) s

def isFlowIndicator (c : Char) : Bool :=
  c = ',' || c = '[' || c = ']' || c = '{' || c = '}'

def plainRun (flow : Bool) : List Char → Option (List Char × List Char)
  | [] => some ([], [])
  | c :: s =>
    if isGap c then some ([], c :: s)
    else if flow && c = ':' && s.head?.any (fun d => isFlowIndicator d || d = '?') then none
    else if c = ':' && atGap s || flow && isFlowIndicator c then some ([], c :: s)
    else (plainRun flow s).map fun (run, rest) => (c :: run, rest)

def plainTail (flow : Bool) (indent : Nat) :
    Nat → List Char → Option (List Char × List Char × Bool)
  | 0, s => some ([], s, false)
  | bound + 1, s =>
    let gap := s.takeWhile isGap
    let rest := s.dropWhile isGap
    let broken := gap.any isBreak
    if gap.isEmpty then some ([], s, false)
    else if tabBefore indent none gap then none
    else if broken && !flow && columnBehind gap < indent || rest.head? = some '#' ||
        broken && columnBehind gap = 0 && atDocument rest then
      some ([], rest, broken)
    else do
      let (run, behind) ← plainRun flow rest
      if run.isEmpty then some ([], rest, broken)
      else
        let (more, last, broken) ← plainTail flow indent bound behind
        some (fold gap ++ run ++ more, last, broken)

def plain (flow : Bool) (indent bound : Nat) (s : List Char) :
    Option (List Char × List Char × Bool) := do
  let (run, rest) ← plainRun flow s
  let (more, last, broken) ← plainTail flow indent bound rest
  some (run ++ more, last, broken)

def quotedGap (s : List Char) : Option (List Char × List Char) :=
  let gap := s.takeWhile isGap
  let rest := s.dropWhile isGap
  if gap.any isBreak && columnBehind gap = 0 && atDocument rest then none else some (gap, rest)

def singleQuoted : Nat → List Char → Option (List Char × List Char)
  | 0, _ | _, [] => none
  | bound + 1, '\'' :: '\'' :: s => (singleQuoted bound s).map fun (cs, rest) => ('\'' :: cs, rest)
  | _, '\'' :: s => some ([], s)
  | bound + 1, c :: s =>
    if isGap c then do
      let (gap, rest) ← quotedGap (c :: s)
      (singleQuoted bound rest).map fun (cs, rest) => (fold gap ++ cs, rest)
    else (singleQuoted bound s).map fun (cs, rest) => (c :: cs, rest)

def letterEscapes : List (Char × Char) :=
  [('0', '\x00'), ('a', '\x07'), ('b', '\x08'), ('t', '\t'), ('\t', '\t'), ('n', '\n'),
    ('v', '\x0b'), ('f', '\x0c'), ('r', '\r'), ('e', '\x1b'), (' ', ' '), ('"', '"'), ('/', '/'),
    ('\\', '\\'), ('N', '\x85'), ('_', '\xa0'), ('L', '\u2028'), ('P', '\u2029')]

def escapeDigits : List (Char × Nat) :=
  [('x', 2), ('u', 4), ('U', 8)]

def hexDigit? (c : Char) : Option Nat :=
  if c.isDigit then some (c.toNat - '0'.toNat)
  else if 'a' ≤ c && c ≤ 'f' then some (c.toNat - 'a'.toNat + 10)
  else if 'A' ≤ c && c ≤ 'F' then some (c.toNat - 'A'.toNat + 10)
  else none

def codePoint (digits : List Char) : Option Char := do
  let n ← digits.foldlM (fun n c => (hexDigit? c).map (16 * n + ·)) 0
  if n.isValidChar then some (Char.ofNat n) else none

def escape : List Char → Option (Char × List Char)
  | [] => none
  | c :: s =>
    match letterEscapes.lookup c, escapeDigits.lookup c with
    | some d, _ => some (d, s)
    | none, some n =>
      if s.length < n then none else (codePoint (s.take n)).map (·, s.drop n)
    | none, none => none

def doubleQuoted : Nat → List Char → Option (List Char × List Char)
  | 0, _ | _, [] => none
  | _, '"' :: s => some ([], s)
  | bound + 1, '\\' :: s =>
    if s.head?.any isBreak then do
      let (gap, rest) ← quotedGap s
      (doubleQuoted bound rest).map fun (cs, rest) => ((breaks gap).drop 1 ++ cs, rest)
    else do
      let (c, rest) ← escape s
      (doubleQuoted bound rest).map fun (cs, rest) => (c :: cs, rest)
  | bound + 1, c :: s =>
    if isGap c then do
      let (gap, rest) ← quotedGap (c :: s)
      (doubleQuoted bound rest).map fun (cs, rest) => (fold gap ++ cs, rest)
    else (doubleQuoted bound s).map fun (cs, rest) => (c :: cs, rest)

inductive Chomp where
  | strip
  | clip
  | keep
deriving DecidableEq, Repr

def Chomp.ofChar? : Char → Option Chomp
  | '-' => some .strip
  | '+' => some .keep
  | _ => none

def indicator? (c : Char) : Option Nat :=
  if c.isDigit && c ≠ '0' then some (c.toNat - '0'.toNat) else none

def blockIndicators (s : List Char) : Chomp × Nat × List Char :=
  match s with
  | [] => (.clip, 0, s)
  | a :: s' =>
    match Chomp.ofChar? a, indicator? a with
    | some chomp, _ =>
      match s'.head?.bind indicator? with
      | some n => (chomp, n, s'.tail)
      | none => (chomp, 0, s')
    | none, some n =>
      match s'.head?.bind Chomp.ofChar? with
      | some chomp => (chomp, n, s'.tail)
      | none => (.clip, n, s')
    | none, none => (.clip, 0, s)

def dropBreak : List Char → List Char
  | '\r' :: '\n' :: s => s
  | s => if s.head?.any isBreak then s.tail else s

def restOfLine (s : List Char) : Option (List Char) :=
  let s := s.dropWhile isBlank
  let s := if s.head? = some '#' then s.dropWhile (fun c => !isBreak c) else s
  if s.isEmpty || s.head?.any isBreak then some (dropBreak s) else none

def emptyLines (indent : Nat) :
    Nat → Nat → List Char → Option (List Char × Nat × Nat × List Char)
  | column, widest, [] => some ([], column, widest, [])
  | _, widest, '\r' :: '\n' :: s =>
    (emptyLines indent 0 widest s).map fun (bs, rest) => ('\n' :: bs, rest)
  | column, widest, c :: s =>
    if c = ' ' && (indent = 0 || column < indent) then
      emptyLines indent (column + 1) (max widest (column + 1)) s
    else if c = '\t' && (indent = 0 || column < indent) then none
    else if isBreak c then
      (emptyLines indent 0 widest s).map fun (bs, rest) => (breaks [c] ++ bs, rest)
    else some ([], column, widest, c :: s)

structure BlockLine where
  blankBefore : Bool
  lastBreak : List Char
  emptyBreaks : List Char
  column : Nat
  rest : List Char

def blockLines (literal : Bool) (indent : Nat) :
    Nat → BlockLine → Option (List Char × BlockLine)
  | 0, at_ => some ([], at_)
  | bound + 1, at_ =>
    if at_.column ≠ indent || at_.rest.isEmpty then some ([], at_)
    else
      let startsBlank := at_.rest.head?.any isBlank
      let joint :=
        if !literal && at_.lastBreak = ['\n'] && !at_.blankBefore && !startsBlank then
          if at_.emptyBreaks.isEmpty then [' '] else []
        else at_.lastBreak
      let line := at_.rest.takeWhile fun c => !isBreak c
      let behind := at_.rest.dropWhile fun c => !isBreak c
      do
        let (emptyBreaks, column, _, rest) ← emptyLines indent 0 0 (dropBreak behind)
        let next := { blankBefore := startsBlank, lastBreak := breaks (behind.take 1), emptyBreaks,
                      column, rest }
        let (more, last) ← blockLines literal indent bound next
        some (joint ++ at_.emptyBreaks ++ line ++ more, last)

def block (literal : Bool) (parent : Int) (bound : Nat) (s : List Char) :
    Option (List Char × List Char) := do
  let (chomp, increment, s) := blockIndicators s
  let s ← restOfLine s
  let given := if increment = 0 then 0 else increment + parent.toNat
  let (emptyBreaks, column, widest, rest) ← emptyLines given 0 0 s
  let indent := if given = 0 then max widest (max (parent + 1).toNat 1) else given
  let first := { blankBefore := false, lastBreak := [], emptyBreaks, column, rest }
  let (text, last) ← blockLines literal indent bound first
  let text := if chomp = .strip then text else text ++ last.lastBreak
  some (if chomp = .keep then text ++ last.emptyBreaks else text, last.rest)

end TriggerLogic.Yaml
