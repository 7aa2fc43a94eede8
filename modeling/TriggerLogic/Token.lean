import TriggerLogic.Text.Quoted

/-! Parentheses stand alone; every other maximal run of printable ASCII is a word, which is one of
five reserved words or a name. -/

namespace TriggerLogic

inductive Operator where
  | and
  | or
  | not
deriving DecidableEq, Repr

def Operator.word : Operator → String
  | .and => "AND"
  | .or => "OR"
  | .not => "NOT"

def Operator.isBinary : Operator → Bool
  | .not => false
  | _ => true

namespace Token

inductive Kind where
  | operator (op : Operator)
  | openParen
  | closeParen
  | constant (value : Bool)
  | name (text : String)
  | stop
deriving DecidableEq, Repr

end Token

structure Token where
  kind : Token.Kind
  position : Nat
deriving DecidableEq, Repr

structure LexError where
  position : Nat
  found : Char
deriving DecidableEq, Repr

def LexError.message (e : LexError) : String :=
  "Unexpected character " ++ Text.quotedChar e.found ++ " at offset " ++ toString e.position

namespace Token

def isBlank (c : Char) : Bool :=
  c = ' ' || c = '\t' || c = '\n' || c = '\x0c' || c = '\r'

def isWordChar (c : Char) : Bool :=
  '!' ≤ c && c ≤ '~' && c ≠ '(' && c ≠ ')'

namespace Kind

def constantWord (value : Bool) : String :=
  if value then "TRUE" else "FALSE"

def ofWord (w : String) : Kind :=
  if w = Operator.and.word then operator .and
  else if w = Operator.or.word then operator .or
  else if w = Operator.not.word then operator .not
  else if w = constantWord true then constant true
  else if w = constantWord false then constant false
  else name w

def display : Kind → String
  | operator op => "'" ++ op.word ++ "'"
  | openParen => "'('"
  | closeParen => "')'"
  | constant value => "'" ++ constantWord value ++ "'"
  | name text => "name '" ++ text ++ "'"
  | stop => "end of input"

def isBinaryOperator : Kind → Bool
  | operator op => op.isBinary
  | _ => false

end Kind

end Token

structure Lexer where
  rest : List Char
  position : Nat := 0
  finished : Bool := false
deriving DecidableEq, Repr

namespace Lexer

open Token

def ofText (text : String) : Lexer :=
  { rest := text.toList }

def advance (l : Lexer) (n : Nat) : Lexer :=
  { l with rest := l.rest.drop n, position := l.position + n }

def skipBlanks (l : Lexer) : Lexer :=
  l.advance (l.rest.takeWhile isBlank).length

def here (l : Lexer) : Except LexError Token × Lexer :=
  match l.rest with
  | [] => (.ok ⟨.stop, l.position⟩, l)
  | c :: _ =>
    if c = '(' then (.ok ⟨.openParen, l.position⟩, l.advance 1)
    else if c = ')' then (.ok ⟨.closeParen, l.position⟩, l.advance 1)
    else if isWordChar c then
      let word := l.rest.takeWhile isWordChar
      (.ok ⟨.ofWord (String.ofList word), l.position⟩, l.advance word.length)
    else (.error ⟨l.position, c⟩, l)

def next (l : Lexer) : Except LexError Token × Lexer :=
  l.skipBlanks.here

/-- The next token, once up to the end of the text or the first error and nothing after that. -/
def pull (l : Lexer) : Option (Except LexError Token) × Lexer :=
  if l.finished then (none, l)
  else match l.next with
    | (.ok t, l') => (some (.ok t), { l' with finished := t.kind = .stop })
    | (.error e, l') => (some (.error e), { l' with finished := true })

theorem length_skipBlanks_le (l : Lexer) : l.skipBlanks.rest.length ≤ l.rest.length := by
  simp [skipBlanks, advance]

theorem length_advance_lt {l : Lexer} {n : Nat} (hn : 0 < n) (hl : l.rest ≠ []) :
    (l.advance n).rest.length < l.rest.length := by
  have := List.length_pos_iff.mpr hl
  simp only [advance, List.length_drop]
  omega

theorem length_here_lt {l l' : Lexer} {t : Token} (h : l.here = (.ok t, l'))
    (ht : t.kind ≠ .stop) :
    l'.rest.length < l.rest.length := by
  unfold here at h
  split at h
  · obtain ⟨ht', -⟩ := Prod.mk.inj h
    cases ht'
    exact absurd rfl ht
  · rename_i c cs hc
    have hl : l.rest ≠ [] := by simp [hc]
    split at h
    · cases h
      exact length_advance_lt Nat.one_pos hl
    · split at h
      · cases h
        exact length_advance_lt Nat.one_pos hl
      · split at h
        · rename_i hw
          cases h
          exact length_advance_lt (by simp [hc, hw]) hl
        · simp at h

theorem length_next_lt {l l' : Lexer} {t : Token} (h : l.next = (.ok t, l'))
    (ht : t.kind ≠ .stop) :
    l'.rest.length < l.rest.length :=
  Nat.lt_of_lt_of_le (length_here_lt h ht) l.length_skipBlanks_le

def tokens (l : Lexer) : Except LexError (List Token) :=
  match _ : l.next with
  | (.error e, _) => .error e
  | (.ok t, l') =>
    if _ : t.kind = .stop then .ok [t]
    else (t :: ·) <$> l'.tokens
termination_by l.rest.length
decreasing_by exact length_next_lt ‹_› ‹_›

end Lexer

def tokenize (text : String) : Except LexError (List Token) :=
  (Lexer.ofText text).tokens

end TriggerLogic
