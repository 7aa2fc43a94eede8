import TriggerLogic.Json.Problem

namespace TriggerLogic.Json

def isBlank (c : Char) : Bool :=
  c = ' ' || c = '\n' || c = '\t' || c = '\r'

def skipBlanks (s : List Char) : List Char :=
  s.dropWhile isBlank

def isControl (c : Char) : Bool :=
  c.toNat < 0x20

def hexDigit? (c : Char) : Option Nat :=
  if '0' ≤ c && c ≤ '9' then some (c.toNat - '0'.toNat)
  else if 'a' ≤ c && c ≤ 'f' then some (c.toNat - 'a'.toNat + 10)
  else if 'A' ≤ c && c ≤ 'F' then some (c.toNat - 'A'.toNat + 10)
  else none

def hexValue (digits : List Char) : Option Nat :=
  digits.foldlM (fun n c => (hexDigit? c).map (16 * n + ·)) 0

def hexEscape (s : List Char) : Result (Nat × List Char) :=
  match s with
  | a :: b :: c :: d :: rest =>
    match hexValue [a, b, c, d] with
    | some n => .ok (n, rest)
    | none => .error .malformed
  | _ => .error (if (String.ofList s).utf8ByteSize < 4 then .endOfText else .malformed)

def isLeading (n : Nat) : Bool :=
  0xD800 ≤ n && n ≤ 0xDBFF

def isTrailing (n : Nat) : Bool :=
  0xDC00 ≤ n && n ≤ 0xDFFF

def joinSurrogates (leading trailing : Nat) : Char :=
  Char.ofNat (0x10000 + (leading - 0xD800) * 0x400 + (trailing - 0xDC00))

def trailingEscape : Reader Nat
  | '\\' :: 'u' :: s =>
    match hexEscape s with
    | .error e => .error e
    | .ok (n, rest) => if isTrailing n then .ok (n, rest) else .error .malformed
  | [] | ['\\'] => .error .endOfText
  | _ => .error .malformed

def unicodeEscape (s : List Char) : Result (Char × List Char) :=
  match hexEscape s with
  | .error e => .error e
  | .ok (n, rest) =>
    if isTrailing n then .error .malformed
    else if isLeading n then
      match trailingEscape rest with
      | .error e => .error e
      | .ok (m, rest) => .ok (joinSurrogates n m, rest)
    else .ok (Char.ofNat n, rest)

def letterEscapes : List (Char × Char) :=
  [('"', '"'), ('\\', '\\'), ('b', '\x08'), ('f', '\x0c'), ('n', '\n'), ('r', '\r'), ('t', '\t')]

def escape : Reader Char
  | [] => .error .endOfText
  | 'u' :: s => unicodeEscape s
  | '/' :: s => .ok ('/', s)
  | c :: s =>
    match letterEscapes.lookup c with
    | some d => .ok (d, s)
    | none => .error .malformed

theorem length_hexEscape {s rest : List Char} {n : Nat} (h : hexEscape s = .ok (n, rest)) :
    rest.length < s.length := by
  unfold hexEscape at h
  split at h
  · split at h
    · cases h
      simp only [List.length_cons]
      omega
    · cases h
  · cases h

theorem length_trailingEscape {s rest : List Char} {n : Nat}
    (h : trailingEscape s = .ok (n, rest)) : rest.length < s.length := by
  unfold trailingEscape at h
  split at h
  · split at h
    · cases h
    · rename_i hs
      split at h
      · cases h
        have := length_hexEscape hs
        simp only [List.length_cons]
        omega
      · cases h
  all_goals cases h

theorem length_unicodeEscape {s rest : List Char} {c : Char}
    (h : unicodeEscape s = .ok (c, rest)) : rest.length < s.length := by
  unfold unicodeEscape at h
  split at h
  · cases h
  · rename_i hs
    have hl := length_hexEscape hs
    split at h
    · cases h
    · split at h
      · split at h
        · cases h
        · rename_i ht
          obtain ⟨-, rfl⟩ := Prod.mk.inj (Except.ok.inj h)
          exact Nat.lt_trans (length_trailingEscape ht) hl
      · obtain ⟨-, rfl⟩ := Prod.mk.inj (Except.ok.inj h)
        exact hl

theorem length_escape {s rest : List Char} {c : Char} (h : escape s = .ok (c, rest)) :
    rest.length < s.length := by
  unfold escape at h
  split at h
  · cases h
  · have := length_unicodeEscape h
    simp only [List.length_cons]
    omega
  · cases h
    simp
  · split at h
    · cases h
      simp
    · cases h

def stringBody (s : List Char) : Result (List Char × List Char) :=
  match s with
  | [] => .error .endOfText
  | '"' :: rest => .ok ([], rest)
  | '\\' :: rest =>
    match _ : escape rest with
    | .error e => .error e
    | .ok (c, rest) => (stringBody rest).map fun (cs, rest) => (c :: cs, rest)
  | c :: rest =>
    if isControl c then .error .malformed
    else (stringBody rest).map fun (cs, rest) => (c :: cs, rest)
termination_by s.length
decreasing_by
  · have := length_escape ‹_›
    simp only [List.length_cons]
    omega
  · simp

def readString (s : List Char) : Result (String × List Char) :=
  (stringBody s).map fun (cs, rest) => (String.ofList cs, rest)

def writeChar (c : Char) : List Char :=
  match letterEscapes.find? (·.2 = c) with
  | some (letter, _) => ['\\', letter]
  | none =>
    if isControl c then
      ['\\', 'u', '0', '0', Nat.digitChar (c.toNat / 16), Nat.digitChar (c.toNat % 16)]
    else [c]

def writeString (s : String) : String :=
  "\"" ++ String.ofList (s.toList.flatMap writeChar) ++ "\""

end TriggerLogic.Json
