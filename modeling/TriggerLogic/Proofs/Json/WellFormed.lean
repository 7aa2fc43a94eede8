import Mathlib.Data.List.DropRight
import TriggerLogic.Proofs.Json.Written

namespace TriggerLogic.Json

section Grammar

def IsGap (s : List Char) : Prop :=
  ∀ c ∈ s, c ∈ [' ', '\n', '\t', '\r']

def Pads (v s : List Char) : Prop :=
  ∃ before after, IsGap before ∧ IsGap after ∧ s = before ++ (v ++ after)

def IsHexDigit (n : Nat) (c : Char) : Prop :=
  n < 16 ∧ (c = Nat.digitChar n ∨ c = (Nat.digitChar n).toUpper)

inductive SpellsUnit : Nat → List Char → Prop
  | mk {n₁ n₂ n₃ n₄ c₁ c₂ c₃ c₄} : IsHexDigit n₁ c₁ → IsHexDigit n₂ c₂ → IsHexDigit n₃ c₃ →
      IsHexDigit n₄ c₄ →
      SpellsUnit (16 * (16 * (16 * n₁ + n₂) + n₃) + n₄) [c₁, c₂, c₃, c₄]

def shortEscapes : List (Char × Char) :=
  [('"', '"'), ('\\', '\\'), ('/', '/'), ('b', '\x08'), ('f', '\x0c'), ('n', '\n'), ('r', '\r'),
    ('t', '\t')]

inductive SpellsChar : Char → List Char → Prop
  | plain {c} : ' ' ≤ c → c ≠ '"' → c ≠ '\\' → SpellsChar c [c]
  | letter {c letter} : (letter, c) ∈ shortEscapes → SpellsChar c ['\\', letter]
  | unit {c s} : SpellsUnit c.toNat s → SpellsChar c ('\\' :: 'u' :: s)
  | pair {c high low s t} : SpellsUnit high s → SpellsUnit low t →
      0xD800 ≤ high → high ≤ 0xDBFF → 0xDC00 ≤ low → low ≤ 0xDFFF →
      c.toNat = 0x10000 + (high - 0xD800) * 0x400 + (low - 0xDC00) →
      SpellsChar c ('\\' :: 'u' :: (s ++ '\\' :: 'u' :: t))

inductive SpellsChars : List Char → List Char → Prop
  | nil : SpellsChars [] []
  | cons {c cs s t} : SpellsChar c s → SpellsChars cs t → SpellsChars (c :: cs) (s ++ t)

def Quotes (text : String) (s : List Char) : Prop :=
  ∃ body, SpellsChars text.toList body ∧ s = '"' :: (body ++ ['"'])

/-- What may stand between quotes. Here `\u` takes any four digits, which need not spell a character. -/
inductive IsStringBody : List Char → Prop
  | nil : IsStringBody []
  | plain {c s} : ' ' ≤ c → c ≠ '"' → c ≠ '\\' → IsStringBody s → IsStringBody (c :: s)
  | letter {letter c s} : (letter, c) ∈ shortEscapes → IsStringBody s → IsStringBody ('\\' :: letter :: s)
  | unit {n s t} : SpellsUnit n s → IsStringBody t → IsStringBody ('\\' :: 'u' :: (s ++ t))

def IsString (s : List Char) : Prop :=
  ∃ body, IsStringBody body ∧ s = '"' :: (body ++ ['"'])

def IsDigits (s : List Char) : Prop :=
  s ≠ [] ∧ ∀ c ∈ s, c.isDigit = true

inductive IsFraction : List Char → Prop
  | nil : IsFraction []
  | digits {s} : IsDigits s → IsFraction ('.' :: s)

inductive IsExponent : List Char → Prop
  | nil : IsExponent []
  | digits {e sign s} : e ∈ ['e', 'E'] → sign ∈ [[], ['+'], ['-']] → IsDigits s →
      IsExponent (e :: (sign ++ s))

inductive IsNumber : List Char → Prop
  | mk {sign whole fraction exponent} : sign ∈ [[], ['-']] → IsDigits whole →
      (whole.head? = some '0' → whole = ['0']) → IsFraction fraction → IsExponent exponent →
      IsNumber (sign ++ (whole ++ (fraction ++ exponent)))

inductive Elements : List (List Char) → List Char → Prop
  | one {v s} : Pads v s → Elements [v] s
  | more {v vs s t} : Pads v s → Elements vs t → Elements (v :: vs) (s ++ ',' :: t)

inductive WritesArray : List (List Char) → List Char → Prop
  | empty {gap} : IsGap gap → WritesArray [] ('[' :: (gap ++ [']']))
  | elements {vs s} : Elements vs s → WritesArray vs ('[' :: (s ++ [']']))

variable {α : Type}

inductive Entries (spells : α → List Char → Prop) : List (α × List Char) → List Char → Prop
  | one {name v key s t} : spells name key → Pads key s → Pads v t →
      Entries spells [(name, v)] (s ++ ':' :: t)
  | more {name v key s t es u} : spells name key → Pads key s → Pads v t → Entries spells es u →
      Entries spells ((name, v) :: es) (s ++ ':' :: (t ++ ',' :: u))

inductive WritesObject (spells : α → List Char → Prop) : List (α × List Char) → List Char → Prop
  | empty {gap} : IsGap gap → WritesObject spells [] ('{' :: (gap ++ ['}']))
  | entries {es s} : Entries spells es s → WritesObject spells es ('{' :: (s ++ ['}']))

inductive WellFormed : List Char → Prop
  | null : WellFormed ['n', 'u', 'l', 'l']
  | true : WellFormed ['t', 'r', 'u', 'e']
  | false : WellFormed ['f', 'a', 'l', 's', 'e']
  | number {s} : IsNumber s → WellFormed s
  | string {s} : IsString s → WellFormed s
  | array {vs s} : WritesArray vs s → (∀ v ∈ vs, WellFormed v) → WellFormed s
  | object {es s} : WritesObject (fun key s => s = key ∧ IsString key) es s →
      (∀ e ∈ es, WellFormed e.2) → WellFormed s

end Grammar

section Strings

variable {c : Char} {cs s t rest : List Char} {n : Nat} {text : String}

lemma isControl_eq_false (h : ' ' ≤ c) : isControl c = false := by
  simpa [isControl, Char.le_def, UInt32.le_iff_toNat_le] using h

lemma hexDigit?_of (h : IsHexDigit n c) : hexDigit? c = some n := by
  obtain ⟨hn, rfl | rfl⟩ := h
  · exact hexDigit?_digitChar n hn
  · revert n
    decide

lemma hexEscape_of (h : SpellsUnit n s) : hexEscape (s ++ rest) = .ok (n, rest) := by
  cases h with
  | mk h₁ h₂ h₃ h₄ =>
    simp [hexEscape, hexValue, hexDigit?_of h₁, hexDigit?_of h₂, hexDigit?_of h₃, hexDigit?_of h₄]

lemma escape_short {letter : Char} (h : (letter, c) ∈ shortEscapes) :
    escape (letter :: rest) = .ok (c, rest) := by
  have hs : ∀ e ∈ shortEscapes, e = ('/', '/') ∨ e ∈ letterEscapes := by decide
  obtain he | hl := hs _ h
  · obtain ⟨rfl, rfl⟩ := Prod.mk.inj he
    rfl
  · exact escape_letter hl

lemma stringBody_plain (hs : ' ' ≤ c) (hq : c ≠ '"') (hb : c ≠ '\\') :
    stringBody (c :: rest) = (stringBody rest).map fun (cs, rest) => (c :: cs, rest) := by
  rw [stringBody]
  · simp [isControl_eq_false hs]
  · exact hq
  · exact hb

lemma unicodeEscape_unit (h : SpellsUnit c.toNat s) : unicodeEscape (s ++ rest) = .ok (c, rest) := by
  have hs : ¬(0xD800 ≤ c.toNat ∧ c.toNat ≤ 0xDFFF) := by
    have hv : c.toNat < 0xD800 ∨ 0xDFFF < c.toNat ∧ c.toNat < 0x110000 := c.valid
    omega
  have ht : isTrailing c.toNat = false := by
    simp only [isTrailing, Bool.and_eq_false_iff, decide_eq_false_iff_not]
    omega
  have hl : isLeading c.toNat = false := by
    simp only [isLeading, Bool.and_eq_false_iff, decide_eq_false_iff_not]
    omega
  rw [unicodeEscape, hexEscape_of h]
  simp [ht, hl, Char.ofNat_toNat]

lemma unicodeEscape_pair {high low : Nat} (hs : SpellsUnit high s) (ht : SpellsUnit low t)
    (hh : 0xD800 ≤ high) (hh' : high ≤ 0xDBFF) (hl : 0xDC00 ≤ low) (hl' : low ≤ 0xDFFF)
    (hc : c.toNat = 0x10000 + (high - 0xD800) * 0x400 + (low - 0xDC00)) :
    unicodeEscape (s ++ '\\' :: 'u' :: (t ++ rest)) = .ok (c, rest) := by
  have hlead : isLeading high = true := by simp [isLeading, hh, hh']
  have hnot : isTrailing high = false := by
    simp only [isTrailing, Bool.and_eq_false_iff, decide_eq_false_iff_not]
    omega
  have htrail : isTrailing low = true := by simp [isTrailing, hl, hl']
  have hj : joinSurrogates high low = c := by
    rw [joinSurrogates, ← hc, Char.ofNat_toNat]
  have he : trailingEscape ('\\' :: 'u' :: (t ++ rest)) = .ok (low, rest) := by
    rw [trailingEscape, hexEscape_of ht]
    simp [htrail]
  rw [unicodeEscape, hexEscape_of hs]
  simp [hnot, hlead, he, hj]

lemma stringBody_char (h : SpellsChar c s) :
    stringBody (s ++ rest) = (stringBody rest).map fun (cs, rest) => (c :: cs, rest) := by
  cases h with
  | plain hs hq hb => exact stringBody_plain hs hq hb
  | letter hl => exact stringBody_escape (escape_short hl)
  | unit hu => exact stringBody_escape (unicodeEscape_unit hu)
  | pair hs ht hh hh' hl hl' hc =>
    rw [List.cons_append, List.cons_append, List.append_assoc]
    exact stringBody_escape (unicodeEscape_pair hs ht hh hh' hl hl' hc)

lemma readString_spelled (h : SpellsChars text.toList s) :
    readString (s ++ '"' :: rest) = .ok (text, rest) := by
  have hb : ∀ {cs s}, SpellsChars cs s → stringBody (s ++ '"' :: rest) = .ok (cs, rest) := by
    intro cs s h
    induction h with
    | nil => simp [stringBody]
    | cons hc _ ih =>
      rw [List.append_assoc, stringBody_char hc, ih]
      rfl
  rw [readString, hb h]
  simp [Except.map]

lemma skipString_plain (hs : ' ' ≤ c) (hq : c ≠ '"') (hb : c ≠ '\\') :
    skipString (c :: rest) = skipString rest := by
  rw [skipString]
  · simp [isControl_eq_false hs]
  · simp [hb]
  · exact hq
  · simp [hb]
  · simp [hb]

lemma skipString_short {letter : Char} (h : (letter, c) ∈ shortEscapes) :
    skipString ('\\' :: letter :: rest) = skipString rest := by
  simp only [shortEscapes, List.mem_cons, List.not_mem_nil, Prod.mk.injEq, or_false] at h
  obtain ⟨rfl, -⟩ | ⟨rfl, -⟩ | ⟨rfl, -⟩ | ⟨rfl, -⟩ | ⟨rfl, -⟩ | ⟨rfl, -⟩ | ⟨rfl, -⟩ | ⟨rfl, -⟩ := h
  all_goals simp [skipString, letterEscapes, List.lookup_cons]

lemma skipString_hexDigit (h : IsHexDigit n c) : skipString (c :: rest) = skipString rest := by
  have hc : ' ' ≤ c ∧ c ≠ '"' ∧ c ≠ '\\' := by
    obtain ⟨hn, rfl | rfl⟩ := h
    · revert n
      decide
    · revert n
      decide
  exact skipString_plain hc.1 hc.2.1 hc.2.2

lemma skipString_unit (h : SpellsUnit n s) :
    skipString ('\\' :: 'u' :: (s ++ rest)) = skipString rest := by
  -- The digits are looked at, but the text goes on in front of them.
  rw [skipString, hexEscape_of h]
  cases h with
  | mk h₁ h₂ h₃ h₄ =>
    simp only [List.cons_append, List.nil_append]
    rw [skipString_hexDigit h₁, skipString_hexDigit h₂, skipString_hexDigit h₃, skipString_hexDigit h₄]

lemma skipString_body (h : IsStringBody s) : skipString (s ++ '"' :: rest) = .ok rest := by
  induction h with
  | nil => simp [skipString]
  | plain hs hq hb _ ih => exact (skipString_plain hs hq hb).trans ih
  | letter hl _ ih => exact (skipString_short hl).trans ih
  | unit hu _ ih =>
    rw [List.cons_append, List.cons_append, List.append_assoc, skipString_unit hu, ih]

end Strings

section Numbers

open Number

variable {s fraction exponent rest : List Char}

lemma skipExponent_of {sign : List Char} (hn : sign ∈ [[], ['+'], ['-']]) (hs : IsDigits s)
    (hr : EndsNumber rest) : skipExponent (sign ++ (s ++ rest)) = .ok rest := by
  obtain ⟨hd, ha⟩ := digits_append hs.2 fun c hc => (hr c hc).1
  have he : s.isEmpty = false := List.isEmpty_eq_false_iff.mpr hs.1
  simp only [List.mem_cons, List.not_mem_nil, or_false] at hn
  obtain rfl | rfl | rfl := hn
  · obtain ⟨c, cs, rfl⟩ := List.exists_cons_of_ne_nil hs.1
    have hc : c.isDigit = true := hs.2 c List.mem_cons_self
    have hp : c ≠ '+' := by
      rintro rfl
      cases hc
    have hm : c ≠ '-' := by
      rintro rfl
      cases hc
    rw [List.cons_append] at hd ha
    simp [skipExponent, hp, hm, hd, ha]
  · simp [skipExponent, hd, ha, he]
  · simp [skipExponent, hd, ha, he]

lemma IsExponent.head (h : IsExponent exponent) (hr : EndsNumber rest) :
    ∀ c ∈ (exponent ++ rest).head?, c.isDigit = false ∧ c ≠ '.' := by
  cases h with
  | nil => exact fun c hc => ⟨(hr c hc).1, fun he => (hr c hc).2 (by simp [he])⟩
  | digits he =>
    simp only [List.mem_cons, List.not_mem_nil, or_false] at he
    obtain rfl | rfl := he
    · simp
    · simp

lemma skipFraction_of (hs : IsDigits s) (he : IsExponent exponent) (hr : EndsNumber rest) :
    skipFraction (s ++ (exponent ++ rest)) = .ok rest := by
  obtain ⟨hd, ha⟩ := digits_append hs.2 fun c hc => (he.head hr c hc).1
  rw [skipFraction, hd, ha, if_neg (by simpa using hs.1)]
  cases he with
  | nil =>
    cases rest with
    | nil => rfl
    | cons c rest =>
      have hc : c ∉ ['.', 'e', 'E'] := (hr c rfl).2
      simp only [List.mem_cons, not_or] at hc
      simp [hc]
  | digits he hn hs' =>
    simp only [List.mem_cons, List.not_mem_nil, or_false] at he
    rw [List.cons_append, List.append_assoc]
    obtain rfl | rfl := he
    · exact skipExponent_of hn hs' hr
    · exact skipExponent_of hn hs' hr

lemma IsFraction.head (h : IsFraction fraction) (he : IsExponent exponent) (hr : EndsNumber rest) :
    ∀ c ∈ (fraction ++ (exponent ++ rest)).head?, c.isDigit = false := by
  cases h with
  | nil => exact fun c hc => (he.head hr c hc).1
  | digits => simp

lemma skipUnsigned_of (hs : IsDigits s) (hz : s.head? = some '0' → s = ['0']) (hf : IsFraction fraction)
    (he : IsExponent exponent) (hr : EndsNumber rest) :
    skipUnsigned (s ++ (fraction ++ (exponent ++ rest))) = .ok rest := by
  obtain ⟨hd, ha⟩ := digits_append hs.2 (hf.head he hr)
  have hz' : ¬(s.isEmpty || s.head? = some '0' && 1 < s.length) = true := by
    simp only [Bool.or_eq_true, List.isEmpty_iff, Bool.and_eq_true, decide_eq_true_eq, not_or, not_and]
    refine ⟨hs.1, fun h => ?_⟩
    rw [hz h]
    decide
  rw [skipUnsigned, hd, ha, if_neg hz']
  cases hf with
  | digits hs' =>
    rw [List.cons_append]
    exact skipFraction_of hs' he hr
  | nil =>
    cases he with
    | nil =>
      cases rest with
      | nil => rfl
      | cons c rest =>
        have hc : c ∉ ['.', 'e', 'E'] := (hr c rfl).2
        simp only [List.mem_cons, not_or] at hc
        simp [hc]
    | digits he hn hs' =>
      simp only [List.mem_cons, List.not_mem_nil, or_false] at he
      rw [List.nil_append, List.cons_append, List.append_assoc]
      obtain rfl | rfl := he
      · exact skipExponent_of hn hs' hr
      · exact skipExponent_of hn hs' hr

end Numbers

section Values

variable {c : Char} {cs s v t rest before after gap : List Char} {opened : List Bracket}

lemma isBlank_iff_mem : isBlank c = true ↔ c ∈ [' ', '\n', '\t', '\r'] := by
  simp [isBlank, or_assoc]

lemma skipBlanks_gap (h : IsGap gap) : skipBlanks (gap ++ s) = skipBlanks s :=
  List.dropWhile_append_of_pos fun c hc => isBlank_iff_mem.mpr (h c hc)

lemma IsGap.endsNumber (hg : IsGap gap) (hr : EndsNumber rest) : EndsNumber (gap ++ rest) := by
  cases gap with
  | nil => exact hr
  | cons c gap =>
    have hc : c ∈ [' ', '\n', '\t', '\r'] := hg c List.mem_cons_self
    simp only [List.mem_cons, List.not_mem_nil, or_false] at hc
    obtain rfl | rfl | rfl | rfl := hc
    all_goals simp [EndsNumber]

structure Skips (s : List Char) : Prop where
  starts : ∃ c cs, s = c :: cs ∧ isBlank c = false ∧ c ≠ ']'
  skips : ∃ k ≤ s.length, ∀ n opened rest, EndsNumber rest →
    skipInside (n + k) opened (s ++ rest) = skipBehind n opened rest

lemma skipInside_scalar {n : Nat} (hb : isBlank c = false) (hl : c ≠ '[') (ho : c ≠ '{')
    (h : (if c = '"' then skipString cs
        else if c = 'n' then takeWord ['u', 'l', 'l'] cs
        else if c = 't' then takeWord ['r', 'u', 'e'] cs
        else if c = 'f' then takeWord ['a', 'l', 's', 'e'] cs
        else if c = '-' then skipUnsigned cs
        else if c.isDigit then skipUnsigned (c :: cs)
        else .error .malformed) = .ok rest) :
    skipInside (n + 1) opened (c :: cs) = skipBehind n opened rest := by
  rw [skipInside, skipBlanks_cons hb]
  simp only [h]

lemma skips_scalar (hb : isBlank c = false) (hm : c ∉ ['[', '{', ']'])
    (h : ∀ rest, EndsNumber rest →
      (if c = '"' then skipString (cs ++ rest)
        else if c = 'n' then takeWord ['u', 'l', 'l'] (cs ++ rest)
        else if c = 't' then takeWord ['r', 'u', 'e'] (cs ++ rest)
        else if c = 'f' then takeWord ['a', 'l', 's', 'e'] (cs ++ rest)
        else if c = '-' then skipUnsigned (cs ++ rest)
        else if c.isDigit then skipUnsigned (c :: (cs ++ rest))
        else .error .malformed) = .ok rest) : Skips (c :: cs) := by
  simp only [List.mem_cons, List.not_mem_nil, or_false, not_or] at hm
  refine ⟨⟨c, cs, rfl, hb, hm.2.2⟩, 1, by simp, fun n opened rest hr => ?_⟩
  exact skipInside_scalar hb hm.1 hm.2.1 (h rest hr)

lemma skips_string (h : IsString s) : Skips s := by
  obtain ⟨body, hb, rfl⟩ := h
  refine skips_scalar rfl (by decide) fun rest _ => ?_
  rw [List.append_assoc]
  exact skipString_body hb

lemma skips_number (h : IsNumber s) : Skips s := by
  cases h with
  | @mk sign whole fraction exponent hn hw hz hf he =>
    simp only [List.mem_cons, List.not_mem_nil, or_false] at hn
    obtain rfl | rfl := hn
    · obtain ⟨c, cs, hc⟩ := List.exists_cons_of_ne_nil hw.1
      have hd : c.isDigit = true := hw.2 c (by simp [hc])
      have hne : ∀ d : Char, d.isDigit = false → c ≠ d := by
        rintro d hd' rfl
        rw [hd] at hd'
        cases hd'
      rw [List.nil_append, hc]
      refine skips_scalar (isBlank_of_isDigit hd) ?_ fun rest hr => ?_
      · simp [hne]
      · rw [if_neg (hne _ rfl), if_neg (hne _ rfl), if_neg (hne _ rfl), if_neg (hne _ rfl),
          if_neg (hne _ rfl), if_pos hd]
        have hu := skipUnsigned_of hw hz hf he hr
        rw [hc] at hu
        simpa using hu
    · refine skips_scalar rfl (by decide) fun rest hr => ?_
      have hu := skipUnsigned_of hw hz hf he hr
      simpa using hu

lemma skipInside_congr (h : skipBlanks s = skipBlanks t) (n : Nat) :
    skipInside n opened s = skipInside n opened t := by
  cases n with
  | zero => rfl
  | succ n =>
    rw [skipInside.eq_def, skipInside.eq_def (n + 1)]
    simp only [h]

lemma skipBehind_congr (h : skipBlanks s = skipBlanks t) (n : Nat) (bracket : Bracket) :
    skipBehind n (bracket :: opened) s = skipBehind n (bracket :: opened) t := by
  cases n with
  | zero => rfl
  | succ n =>
    rw [skipBehind.eq_def, skipBehind.eq_def (n + 1)]
    simp only [h]

lemma takeMark_gap {mark : Char} (hg : IsGap gap) (hm : isBlank mark = false) :
    takeMark mark (gap ++ mark :: rest) = .ok rest := by
  rw [takeMark, skipBlanks_gap hg, skipBlanks_cons hm]
  exact if_pos rfl

lemma skipKey_of (hk : IsString v) (hp : Pads v s) : skipKey (s ++ ':' :: rest) = .ok rest := by
  obtain ⟨before, after, hb, ha, rfl⟩ := hp
  obtain ⟨body, hs, rfl⟩ := hk
  rw [List.append_assoc, List.append_assoc, skipKey, List.cons_append, takeMark_gap hb rfl]
  change (skipString _ >>= takeMark ':') = _
  rw [List.append_assoc, List.singleton_append, skipString_body hs]
  exact takeMark_gap ha rfl

lemma skipBlanks_key (hk : IsString v) (hp : Pads v s) :
    ∃ cs, skipBlanks (s ++ t ++ rest) = '"' :: cs := by
  obtain ⟨before, after, hb, -, rfl⟩ := hp
  obtain ⟨body, -, rfl⟩ := hk
  rw [List.append_assoc, List.append_assoc, skipBlanks_gap hb]
  exact ⟨_, skipBlanks_cons rfl⟩

lemma Skips.padded (h : Skips v) (hp : Pads v s) : ∃ k ≤ s.length, ∀ n bracket opened c rest,
    c ∈ [',', ']', '}'] → skipInside (n + k) (bracket :: opened) (s ++ c :: rest) =
      skipBehind n (bracket :: opened) (c :: rest) := by
  obtain ⟨before, after, hb, ha, rfl⟩ := hp
  obtain ⟨k, hk, hs⟩ := h.skips
  refine ⟨k, by simp only [List.length_append]; omega, fun n bracket opened c rest hc => ?_⟩
  have hr : EndsNumber (after ++ c :: rest) := ha.endsNumber (endsNumber_cons hc)
  rw [List.append_assoc, List.append_assoc, skipInside_congr (skipBlanks_gap hb), hs n _ _ hr,
    skipBehind_congr (skipBlanks_gap ha)]

lemma Skips.skipBlanks_padded (h : Skips v) (hp : Pads v s) (rest : List Char) :
    ∃ c cs, skipBlanks (s ++ rest) = c :: cs ∧ c ≠ ']' := by
  obtain ⟨before, after, hb, -, rfl⟩ := hp
  obtain ⟨c, cs, rfl, hc, hn⟩ := h.starts
  rw [List.append_assoc, skipBlanks_gap hb]
  exact ⟨c, _, skipBlanks_cons hc, hn⟩

lemma skipBlanks_of_eq (h : skipBlanks s = t) : skipBlanks t = skipBlanks s := by
  subst h
  exact List.dropWhile_idempotent _ _

lemma skipInside_array {n : Nat} (h : skipBlanks s = c :: cs) (hc : c ≠ ']') :
    skipInside (n + 1) opened ('[' :: s) = skipInside n (.list :: opened) s := by
  rw [← skipInside_congr (skipBlanks_of_eq h), skipInside, skipBlanks_cons rfl]
  simp only [h]
  split
  · simp_all
  · rfl

lemma skipInside_object {n : Nat} (h : skipBlanks s = c :: cs) (hc : c ≠ '}') :
    skipInside (n + 1) opened ('{' :: s) = (skipKey s).bind (skipInside n (.object :: opened)) := by
  have hk : skipKey s = skipKey (c :: cs) := by
    rw [skipKey, skipKey, takeMark, takeMark, skipBlanks_of_eq h]
  rw [hk, skipInside, skipBlanks_cons rfl]
  simp only [h]
  split
  · simp_all
  · cases skipKey (c :: cs) with
    | error e => rfl
    | ok rest => rfl

lemma skipInside_empty {n : Nat} {first last : Char} (hm : (first, last) ∈ [('[', ']'), ('{', '}')])
    (hg : IsGap gap) :
    skipInside (n + 1) opened (first :: (gap ++ last :: rest)) = skipBehind n opened rest := by
  simp only [List.mem_cons, List.not_mem_nil, Prod.mk.injEq, or_false] at hm
  obtain ⟨rfl, rfl⟩ | ⟨rfl, rfl⟩ := hm
  · rw [skipInside, skipBlanks_cons rfl]
    simp only [skipBlanks_gap hg]
    rfl
  · rw [skipInside, skipBlanks_cons rfl]
    simp only [skipBlanks_gap hg]
    rfl

lemma skipBehind_entry {n : Nat} : skipBehind (n + 1) (.object :: opened) (',' :: s) =
    (skipKey s).bind (skipInside n (.object :: opened)) := by
  have hb : skipBlanks (',' :: s) = ',' :: s := skipBlanks_cons rfl
  rw [skipBehind.eq_def]
  simp only [hb]
  cases skipKey s with
  | error e => rfl
  | ok rest => rfl

lemma skips_elements {vs : List (List Char)} (h : Elements vs s) (hs : ∀ v ∈ vs, Skips v) :
    ∃ k ≤ s.length + 1, ∀ n opened rest,
      skipInside (n + k) (.list :: opened) (s ++ ']' :: rest) = skipBehind n opened rest := by
  induction h with
  | one hp =>
    obtain ⟨k, hk, hv⟩ := (hs _ List.mem_cons_self).padded hp
    refine ⟨k + 1, by omega, fun n opened rest => ?_⟩
    rw [← Nat.add_assoc, Nat.add_right_comm, hv _ _ _ _ _ (by decide)]
    rfl
  | more hp _ ih =>
    obtain ⟨hv, hs⟩ := List.forall_mem_cons.mp hs
    obtain ⟨k, hk, hv⟩ := hv.padded hp
    obtain ⟨k', hk', ht⟩ := ih hs
    refine ⟨k' + 1 + k, by simp only [List.length_append, List.length_cons]; omega, fun n opened rest => ?_⟩
    rw [← Nat.add_assoc, List.append_assoc, List.cons_append, hv _ _ _ _ _ (by decide)]
    exact ht n opened rest

lemma skips_entries {es : List (List Char × List Char)}
    (h : Entries (fun key s => s = key ∧ IsString key) es s) (hs : ∀ e ∈ es, Skips e.2) :
    ∃ k ≤ s.length + 1, ∀ n opened rest,
      (skipKey (s ++ '}' :: rest)).bind (skipInside (n + k) (.object :: opened)) =
        skipBehind n opened rest := by
  induction h with
  | @one name v key s t hn hk hp =>
    obtain ⟨rfl, hkey⟩ := hn
    obtain ⟨k, hk', hv⟩ := (hs _ List.mem_cons_self).padded hp
    refine ⟨k + 1, by simp only [List.length_append, List.length_cons]; omega, fun n opened rest => ?_⟩
    rw [List.append_assoc, List.cons_append, skipKey_of hkey hk]
    change skipInside _ _ _ = _
    rw [← Nat.add_assoc, Nat.add_right_comm, hv _ _ _ _ _ (by decide)]
    rfl
  | @more name v key s t es u hn hk hp _ ih =>
    obtain ⟨rfl, hkey⟩ := hn
    obtain ⟨hv, hs⟩ := List.forall_mem_cons.mp hs
    obtain ⟨k, hk', hv⟩ := hv.padded hp
    obtain ⟨k', hk'', ht⟩ := ih hs
    refine ⟨k' + 1 + k, by simp only [List.length_append, List.length_cons]; omega, fun n opened rest => ?_⟩
    rw [List.append_assoc, List.cons_append, skipKey_of hkey hk]
    change skipInside _ _ _ = _
    rw [← Nat.add_assoc, List.append_assoc, List.cons_append, hv _ _ _ _ _ (by decide), ← ht n opened rest]
    exact skipBehind_entry

lemma WellFormed.skips (h : WellFormed s) : Skips s := by
  induction h with
  | null => exact skips_scalar rfl (by decide) fun _ _ => rfl
  | true => exact skips_scalar rfl (by decide) fun _ _ => rfl
  | false => exact skips_scalar rfl (by decide) fun _ _ => rfl
  | number hn => exact skips_number hn
  | string hs => exact skips_string hs
  | array ha _ ih =>
    cases ha with
    | @empty gap hg =>
      refine ⟨⟨'[', _, rfl, rfl, by decide⟩, 1, by simp, fun n opened rest _ => ?_⟩
      rw [List.cons_append, List.append_assoc]
      exact skipInside_empty (by decide) hg
    | @elements _ s he =>
      obtain ⟨k, hk, hs⟩ := skips_elements he ih
      refine ⟨⟨'[', _, rfl, rfl, by decide⟩, k + 1, by simp; omega, fun n opened rest _ => ?_⟩
      have hh : ∃ c cs, skipBlanks (s ++ ']' :: rest) = c :: cs ∧ c ≠ ']' := by
        cases he with
        | one hp => exact (ih _ List.mem_cons_self).skipBlanks_padded hp _
        | more hp =>
          rw [List.append_assoc]
          exact (ih _ List.mem_cons_self).skipBlanks_padded hp _
      obtain ⟨c, cs, hb, hc⟩ := hh
      rw [List.cons_append, List.append_assoc, List.singleton_append, ← Nat.add_assoc,
        skipInside_array hb hc, hs]
  | object ho _ ih =>
    cases ho with
    | @empty gap hg =>
      refine ⟨⟨'{', _, rfl, rfl, by decide⟩, 1, by simp, fun n opened rest _ => ?_⟩
      rw [List.cons_append, List.append_assoc]
      exact skipInside_empty (by decide) hg
    | @entries _ s he =>
      obtain ⟨k, hk, hs⟩ := skips_entries he ih
      refine ⟨⟨'{', _, rfl, rfl, by decide⟩, k + 1, by simp; omega, fun n opened rest _ => ?_⟩
      obtain ⟨cs, hb⟩ : ∃ cs, skipBlanks (s ++ '}' :: rest) = '"' :: cs := by
        cases he with
        | one hn hp => exact skipBlanks_key (hn.1 ▸ hn.2) hp
        | more hn hp => exact skipBlanks_key (hn.1 ▸ hn.2) hp
      rw [List.cons_append, List.append_assoc, List.singleton_append, ← Nat.add_assoc,
        skipInside_object hb (by decide), hs]

lemma WellFormed.skipValue (h : WellFormed s) (hg : IsGap gap) (hr : EndsNumber rest) :
    skipValue (gap ++ (s ++ rest)) = .ok rest := by
  obtain ⟨k, hk, hs⟩ := h.skips.skips
  have hl : k ≤ (gap ++ (s ++ rest)).length + 1 := by
    simp only [List.length_append]
    omega
  obtain ⟨n, hn⟩ := Nat.exists_eq_add_of_le' hl
  rw [Json.skipValue, hn, skipInside_congr (skipBlanks_gap hg), hs _ _ _ hr]
  exact skipBehind.eq_1 _ _

end Values

section Written

lemma isGap_nil : IsGap [] := by
  simp [IsGap]

lemma pads_self (v : List Char) : Pads v v :=
  ⟨[], [], isGap_nil, isGap_nil, by simp⟩

lemma spellsUnit_control {n : Nat} (h : n < 0x20) :
    SpellsUnit n ['0', '0', Nat.digitChar (n / 16), Nat.digitChar (n % 16)] := by
  have hz : IsHexDigit 0 '0' := ⟨by decide, .inl rfl⟩
  have hq : IsHexDigit (n / 16) (Nat.digitChar (n / 16)) := ⟨by omega, .inl rfl⟩
  have hr : IsHexDigit (n % 16) (Nat.digitChar (n % 16)) := ⟨by omega, .inl rfl⟩
  simpa [Nat.div_add_mod] using SpellsUnit.mk hz hz hq hr

lemma spells_writeChar (c : Char) : SpellsChar c (writeChar c) := by
  have hl : ∀ e ∈ letterEscapes, e ∈ shortEscapes := by decide
  unfold writeChar
  split
  · rename_i letter d hf
    have hd : d = c := by simpa using List.find?_some hf
    subst hd
    exact .letter (hl _ (List.mem_of_find?_eq_some hf))
  · rename_i hf
    split
    · rename_i hc
      exact .unit (spellsUnit_control (of_decide_eq_true hc))
    · rename_i hc
      have hs : ' ' ≤ c := by simpa [isControl, Char.le_def, UInt32.le_iff_toNat_le] using hc
      refine .plain hs ?_ ?_
      · rintro rfl
        simp [letterEscapes] at hf
      · rintro rfl
        simp [letterEscapes] at hf

lemma quotes_writeString (text : String) : Quotes text (writeString text).toList := by
  have hs : ∀ cs, SpellsChars cs (cs.flatMap writeChar) := by
    intro cs
    induction cs with
    | nil => exact .nil
    | cons c cs ih => exact .cons (spells_writeChar c) ih
  exact ⟨_, hs _, toList_writeString⟩

lemma elements_written (text : String) (texts : List String) :
    Elements ((text :: texts).map String.toList)
      (text.toList ++ texts.flatMap fun t => ',' :: t.toList) := by
  induction texts generalizing text with
  | nil => simpa using .one (pads_self _)
  | cons t ts ih => exact .more (pads_self _) (ih t)

lemma writes_writeList {α : Type} (write : α → String) (as : List α) :
    WritesArray ((as.map write).map String.toList) (writeList write as).toList := by
  cases as with
  | nil => simpa [writeList] using WritesArray.empty isGap_nil
  | cons a as =>
    rw [writeList, String.toList_append, String.toList_append, List.map_cons, toList_intercalate_cons]
    exact .elements (elements_written _ _)

lemma entries_written (key value : String) (entries : List (String × String)) :
    Entries Quotes (((key, value) :: entries).map fun e => (e.1, e.2.toList))
      ((writeString key).toList ++ ':' :: (value.toList ++
        entries.flatMap fun e => ',' :: ((writeString e.1).toList ++ ':' :: e.2.toList))) := by
  induction entries generalizing key value with
  | nil => simpa using .one (quotes_writeString key) (pads_self _) (pads_self value.toList)
  | cons entry entries ih =>
    have ht := ih entry.1 entry.2
    rw [List.flatMap_cons, List.cons_append, List.append_assoc, List.cons_append]
    exact .more (quotes_writeString key) (pads_self _) (pads_self _) ht

lemma writes_writeObject (key value : String) (entries : List (String × String)) :
    WritesObject Quotes (((key, value) :: entries).map fun e => (e.1, e.2.toList))
      (writeObject ((key, value) :: entries)).toList := by
  have ho := WritesObject.entries (entries_written key value entries)
  rw [toList_writeObject]
  simpa using ho

end Written

end TriggerLogic.Json
