import TriggerLogic.Proofs.Places

/-! The regular expression that a pattern is written as. Groups, classes, alternatives and
repetitions other than `*` are not read, since no pattern is written with them. -/

namespace TriggerLogic

inductive Regex where
  | start
  | stop
  | wild
  | char (c : Char)
  | star (r : Regex)
deriving DecidableEq, Repr

namespace Glob

/-- What one character of a pattern takes of a name. -/
def Takes (c : Char) (piece : List Char) : Prop :=
  if c = '*' then '\n' ∉ piece
  else if c = '?' then ∃ d, d ≠ '\n' ∧ piece = [d]
  else piece = [c]

def Splits (p s : List Char) : Prop :=
  ∃ pieces, List.Forall₂ Takes p pieces ∧ pieces.flatten = s

variable {c : Char} {p s : List Char}

lemma splits_nil : Splits [] s ↔ s = [] := by
  constructor
  · rintro ⟨_, ⟨⟩, rfl⟩
    rfl
  · rintro rfl
    exact ⟨[], .nil, rfl⟩

lemma splits_cons : Splits (c :: p) s ↔ ∃ piece rest, s = piece ++ rest ∧ Takes c piece ∧ Splits p rest := by
  constructor
  · rintro ⟨_, ht, rfl⟩
    cases ht with
    | cons hc hp => exact ⟨_, _, rfl, hc, _, hp, rfl⟩
  · rintro ⟨piece, _, rfl, hc, pieces, hp, rfl⟩
    exact ⟨piece :: pieces, .cons hc hp, rfl⟩

lemma matches_iff_splits : Matches p s ↔ Splits p s := by
  constructor
  · intro hm
    induction hm with
    | nil => exact splits_nil.mpr rfl
    | @anyRun run p s hw _ ih =>
      have hr : '\n' ∉ run := fun hn => hw _ hn rfl
      exact splits_cons.mpr ⟨run, s, rfl, by simpa [Takes] using hr, ih⟩
    | @anyOne c p s hc _ ih => exact splits_cons.mpr ⟨[c], s, rfl, by simpa [Takes] using hc, ih⟩
    | @literal c p s hs hq _ ih => exact splits_cons.mpr ⟨[c], s, rfl, by simp [Takes, hs, hq], ih⟩
  · intro hm
    induction p generalizing s with
    | nil =>
      rw [splits_nil.mp hm]
      exact .nil
    | cons c p ih =>
      obtain ⟨piece, rest, rfl, hc, hr⟩ := splits_cons.mp hm
      rw [Takes] at hc
      split at hc
      · rename_i hs
        subst hs
        exact .anyRun (fun d hd hn => hc (hn ▸ hd)) (ih hr)
      · split at hc
        · rename_i hq
          subst hq
          obtain ⟨d, hd, rfl⟩ := hc
          exact .anyOne hd (ih hr)
        · rename_i hs hq
          subst hc
          exact .literal hs hq (ih hr)

end Glob

namespace Regex

def isSpecial (c : Char) : Bool :=
  "\\.+*?()|[\x7b^$".toList.contains c

/-- A backslash makes every character of ASCII that is no letter, digit or angle bracket stand for
itself. -/
def isEscapable (c : Char) : Bool :=
  c.val < 128 && !c.isAlphanum && c ≠ '<' && c ≠ '>'

def readBehind : List Regex → List Char → Option (List Regex)
  | parts, [] => some parts.reverse
  | parts, '^' :: text => readBehind (start :: parts) text
  | parts, '$' :: text => readBehind (stop :: parts) text
  | parts, '.' :: text => readBehind (wild :: parts) text
  | part :: parts, '*' :: text => readBehind (star part :: parts) text
  | parts, '\\' :: c :: text => if isEscapable c then readBehind (char c :: parts) text else none
  | parts, c :: text => if isSpecial c then none else readBehind (char c :: parts) text

def read (text : String) : Option (List Regex) :=
  readBehind [] text.toList

/-- What a part takes, with what stands before and behind it. -/
inductive Spans : Regex → List Char → List Char → List Char → Prop
  | start {after} : Spans start [] [] after
  | stop {before} : Spans stop before [] []
  | wild {c before after} : c ≠ '\n' → Spans wild before [c] after
  | char {c before after} : Spans (char c) before [c] after
  | done {r before after} : Spans (star r) before [] after
  | again {r before s t after} : Spans r before s (t ++ after) → Spans (star r) (before ++ s) t after →
      Spans (star r) before (s ++ t) after

inductive SpansAll : List Regex → List Char → List Char → List Char → Prop
  | nil {before after} : SpansAll [] before [] after
  | cons {r rs before s t after} : Spans r before s (t ++ after) → SpansAll rs (before ++ s) t after →
      SpansAll (r :: rs) before (s ++ t) after

def Finds (rs : List Regex) (text : List Char) : Prop :=
  ∃ before s after, text = before ++ (s ++ after) ∧ SpansAll rs before s after

def ofPiece : Glob.Piece → Regex
  | .anyRun => star wild
  | .anyOne => wild
  | .literal c => char c

variable {parts rs : List Regex} {text before s after : List Char} {c : Char} {g : Glob}

lemma isEscapable_of_isRegexOperator (h : Glob.Piece.isRegexOperator c = true) : isEscapable c = true := by
  have hc : "\\.+*?()|[]\x7b\x7d^$#&-~".toList.all isEscapable = true := rfl
  apply List.all_eq_true.mp hc
  exact List.contains_iff_mem.mp h

lemma isRegexOperator_of_isSpecial (h : isSpecial c = true) : Glob.Piece.isRegexOperator c = true := by
  have hc : "\\.+*?()|[\x7b^$".toList.all Glob.Piece.isRegexOperator = true := rfl
  apply List.all_eq_true.mp hc
  exact List.contains_iff_mem.mp h

lemma readBehind_bare (h : isSpecial c = false) :
    readBehind parts (c :: text) = readBehind (char c :: parts) text := by
  have hn : ∀ d, isSpecial d = true → c ≠ d := by
    rintro d hd rfl
    rw [hd] at h
    cases h
  simp [readBehind, h, hn '^' rfl, hn '$' rfl, hn '.' rfl, hn '*' rfl, hn '\\' rfl]

lemma readBehind_escaped (h : isEscapable c = true) :
    readBehind parts ('\\' :: c :: text) = readBehind (char c :: parts) text := by
  simp [readBehind, h]

lemma readBehind_piece (p : Glob.Piece) :
    readBehind parts (p.regex ++ text) = readBehind (ofPiece p :: parts) text := by
  cases p with
  | anyRun => rfl
  | anyOne => rfl
  | literal c =>
    by_cases ho : Glob.Piece.isRegexOperator c = true
    · simp [Glob.Piece.regex, ho, ofPiece, readBehind_escaped (isEscapable_of_isRegexOperator ho)]
    · have hs : isSpecial c = false := by simpa using mt isRegexOperator_of_isSpecial ho
      simp [Glob.Piece.regex, ho, ofPiece, readBehind_bare hs]

lemma readBehind_pieces (g : Glob) :
    readBehind parts (g.flatMap Glob.Piece.regex ++ text) =
      readBehind ((g.map ofPiece).reverse ++ parts) text := by
  induction g generalizing parts with
  | nil => rfl
  | cons p g ih =>
    rw [List.flatMap_cons, List.append_assoc, readBehind_piece, ih]
    simp

lemma read_regex (g : Glob) : read g.regex = some (start :: (g.map ofPiece ++ [stop])) := by
  rw [read, Glob.regex, String.toList_ofList, Glob.regexText, readBehind, readBehind_pieces]
  simp [readBehind]

lemma spans_star_wild : Spans (star wild) before s after ↔ '\n' ∉ s := by
  constructor
  · intro h
    generalize hr : star wild = r at h
    induction h with
    | done => simp
    | again hw _ _ ih =>
      cases hr
      cases hw with
      | wild hc => simpa [ne_comm] using And.intro hc (ih rfl)
    | _ => cases hr
  · intro h
    induction s generalizing before with
    | nil => exact .done
    | cons c s ih =>
      rw [List.mem_cons, not_or] at h
      exact .again (.wild (Ne.symm h.1)) (ih h.2)

lemma spans_wild : Spans wild before s after ↔ ∃ d, d ≠ '\n' ∧ s = [d] := by
  constructor
  · rintro ⟨⟩
    exact ⟨_, ‹_›, rfl⟩
  · rintro ⟨d, hd, rfl⟩
    exact .wild hd

lemma spans_char : Spans (char c) before s after ↔ s = [c] := by
  constructor
  · rintro ⟨⟩
    rfl
  · rintro rfl
    exact .char

lemma spans_ofChar : Spans (ofPiece (.ofChar c)) before s after ↔ Glob.Takes c s := by
  rw [Glob.Takes, Glob.Piece.ofChar]
  by_cases hs : c = '*'
  · rw [if_pos hs, if_pos hs]
    exact spans_star_wild
  · rw [if_neg hs, if_neg hs]
    by_cases hq : c = '?'
    · rw [if_pos hq, if_pos hq]
      exact spans_wild
    · rw [if_neg hq, if_neg hq]
      exact spans_char

lemma spansAll_cons {r : Regex} : SpansAll (r :: rs) before s after ↔
    ∃ front rest, s = front ++ rest ∧ Spans r before front (rest ++ after) ∧
      SpansAll rs (before ++ front) rest after := by
  constructor
  · rintro (_ | ⟨hr, hrs⟩)
    exact ⟨_, _, rfl, hr, hrs⟩
  · rintro ⟨front, rest, rfl, hr, hrs⟩
    exact .cons hr hrs

lemma spansAll_stop : SpansAll [stop] before s after ↔ s = [] ∧ after = [] := by
  rw [spansAll_cons]
  constructor
  · rintro ⟨_, _, rfl, hs, ⟨⟩⟩
    cases hs
    exact ⟨rfl, rfl⟩
  · rintro ⟨rfl, rfl⟩
    exact ⟨[], [], rfl, .stop, .nil⟩

lemma spansAll_ofPattern {p : List Char} :
    SpansAll ((p.map Glob.Piece.ofChar).map ofPiece ++ [stop]) before s after ↔
      Glob.Splits p s ∧ after = [] := by
  induction p generalizing before s with
  | nil => rw [List.map_nil, List.map_nil, List.nil_append, spansAll_stop, Glob.splits_nil]
  | cons c p ih =>
    rw [List.map_cons, List.map_cons, List.cons_append, spansAll_cons, Glob.splits_cons]
    simp only [spans_ofChar, ih]
    constructor
    · rintro ⟨front, rest, rfl, hc, hp, ha⟩
      exact ⟨⟨front, rest, rfl, hc, hp⟩, ha⟩
    · rintro ⟨⟨front, rest, rfl, hc, hp⟩, ha⟩
      exact ⟨front, rest, rfl, hc, hp, ha⟩

lemma finds_anchored {p : List Char} :
    Finds (start :: ((p.map Glob.Piece.ofChar).map ofPiece ++ [stop])) text ↔ Glob.Splits p text := by
  simp only [Finds, spansAll_cons, spansAll_ofPattern]
  constructor
  · rintro ⟨before, _, after, rfl, _, rest, rfl, hs, hp, rfl⟩
    cases hs
    simpa using hp
  · intro hp
    exact ⟨[], text, [], by simp, [], text, rfl, .start, hp, rfl⟩

lemma read_ofPattern (pattern : String) :
    ∃ parts, read (Glob.ofPattern pattern).regex = some parts ∧
      ∀ text, Finds parts text ↔ Glob.Splits pattern.toList text :=
  ⟨_, read_regex _, fun _ => finds_anchored⟩

end Regex

namespace Glob

theorem regex_finds_pieces [RegexLibrary] {pattern : String} {g : Glob} (h : compile pattern = .ok g) :
    ∃ parts, Regex.read g.regex = some parts ∧ ∀ name,
      (g.isMatch name = true ↔ Splits pattern.toList name.toList) ∧
      (Regex.Finds parts name.toList ↔ Splits pattern.toList name.toList) := by
  obtain rfl : g = ofPattern pattern := eq_ofPattern_of_compile h
  obtain ⟨parts, hr, hf⟩ := Regex.read_ofPattern pattern
  refine ⟨parts, hr, ?_⟩
  intro name
  exact ⟨isMatch_ofPattern_iff.trans matches_iff_splits, hf name.toList⟩

theorem regex_finds_pieces_metacharacters :
    ∃ g, compile "A.*?(é" = .ok g ∧ g.regex = "^A\\..*.\\(é$" ∧ g.isMatch "A.xyz(é" = true ∧
      ∃ parts, Regex.read g.regex = some parts ∧
        Regex.Finds parts "A.xyz(é".toList ∧ ¬ Regex.Finds parts "Abxyz(é".toList := by
  have hc : compile "A.*?(é" = .ok (ofPattern "A.*?(é") := rfl
  have hy : (ofPattern "A.*?(é").isMatch "A.xyz(é" = true := by decide
  have hn : (ofPattern "A.*?(é").isMatch "Abxyz(é" ≠ true := by decide
  obtain ⟨parts, hr, hf⟩ := regex_finds_pieces hc
  refine ⟨_, hc, rfl, hy, parts, hr, ?_, ?_⟩
  · exact (hf _).2.mpr ((hf _).1.mp hy)
  · exact fun h => hn ((hf _).1.mpr ((hf _).2.mp h))

end Glob

namespace Leaf

theorem resolve_run_finds [RegexLibrary] {l : Leaf} (policy : Policy) (ops : List Table.Op)
    (hc : l.Compiles) :
    ∃ r parts, l.resolve (Table.run policy ops).context = .ok r ∧
      Regex.read (Glob.ofPattern l.pattern).regex = some parts ∧
      (r.bindings.map Binding.index).Pairwise (· < ·) ∧
      ∀ b, b ∈ r.bindings ↔
        ((Table.run policy ops).context.knownNames l.level)[b.index]? = some b.name ∧
          Regex.Finds parts b.name.toList := by
  obtain ⟨parts, hr, hf⟩ := Regex.read_ofPattern l.pattern
  have hl := resolve_of_consistent (Table.run_consistent policy ops) hc
  refine ⟨_, parts, hl, hr, selection_ascends, fun b => ?_⟩
  rw [hf, ← Glob.matches_iff_splits]
  exact mem_selection

end Leaf

end TriggerLogic
