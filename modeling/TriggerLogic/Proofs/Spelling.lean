import Mathlib.Data.List.Forall2
import Mathlib.Data.List.TakeWhile
import Mathlib.Tactic.SplitIfs
import TriggerLogic.Proofs.Reading

namespace TriggerLogic

open Token Grammar

namespace Token

def Breaks (text : List Char) : Prop :=
  ∀ c ∈ text.head?, isWordChar c = false

inductive Heads : List Char → Kind → List Char → Prop
  | openParen {rest} : Heads ('(' :: rest) .openParen rest
  | closeParen {rest} : Heads (')' :: rest) .closeParen rest
  | word {w rest} : w ≠ [] → (∀ c ∈ w, isWordChar c = true) → Breaks rest →
      Heads (w ++ rest) (.ofWord (String.ofList w)) rest

inductive Lexes : List Char → List Kind → Prop
  | nil : Lexes [] []
  | blank {c text ks} : isBlank c = true → Lexes text ks → Lexes (c :: text) ks
  | token {text k rest ks} : Heads text k rest → Lexes rest ks → Lexes text (k :: ks)

def IsWord (word : String) : Prop :=
  word ≠ "" ∧ ∀ c ∈ word.toList, isWordChar c = true

instance : DecidablePred IsWord :=
  fun word => decidable_of_iff (word ≠ "" ∧ word.toList.all isWordChar = true) (by simp [IsWord])

def reserved : List String :=
  [Operator.and.word, Operator.or.word, Operator.not.word, Kind.constantWord true, Kind.constantWord false]

def IsName (word : String) : Prop :=
  IsWord word ∧ word ∉ reserved

instance : DecidablePred IsName :=
  fun word => inferInstanceAs (Decidable (IsWord word ∧ word ∉ reserved))

lemma IsName.ofWord {word : String} (h : IsName word) : Kind.ofWord word = .name word := by
  have hr := h.2
  simp only [reserved, List.mem_cons, List.not_mem_nil, or_false, not_or] at hr
  obtain ⟨ha, ho, hn, ht, hf⟩ := hr
  simp only [Kind.ofWord, if_neg ha, if_neg ho, if_neg hn, if_neg ht, if_neg hf]

variable {text text' rest w : List Char} {k : Kind} {ks ks' : List Kind} {c : Char}

lemma isBlank_eq_false_of_isWordChar (h : isWordChar c = true) : isBlank c = false := by
  by_contra hb
  simp only [isBlank, Bool.not_eq_false, Bool.or_eq_true, decide_eq_true_eq] at hb
  rcases hb with (((rfl | rfl) | rfl) | rfl) | rfl <;> exact absurd h (by decide)

lemma Breaks.append (h : Breaks text) (hr : Breaks rest) : Breaks (text ++ rest) := by
  cases text with
  | nil => exact hr
  | cons c text => exact h

lemma takeWhile_isWordChar_append (hw : ∀ c ∈ w, isWordChar c = true) (hr : Breaks rest) :
    (w ++ rest).takeWhile isWordChar = w := by
  rw [List.takeWhile_append_of_pos hw]
  cases rest with
  | nil => simp
  | cons c rest => simp [hr c rfl]

lemma breaks_dropWhile : Breaks (text.dropWhile isWordChar) := by
  intro c hc
  have h := List.head?_dropWhile_not isWordChar text
  rw [Option.mem_def.mp hc] at h
  exact h

lemma Heads.append (h : Heads text k rest) {more : List Char} (hm : Breaks more) :
    Heads (text ++ more) k (rest ++ more) := by
  cases h with
  | openParen => exact .openParen
  | closeParen => exact .closeParen
  | word hn hw hr =>
    rw [List.append_assoc]
    exact .word hn hw (hr.append hm)

lemma Heads.dropWhile_isBlank (h : Heads text k rest) : text.dropWhile isBlank = text := by
  cases h with
  | openParen => rfl
  | closeParen => rfl
  | @word w rest hn hw _ =>
    obtain ⟨c, w, rfl⟩ := List.exists_cons_of_ne_nil hn
    exact List.dropWhile_cons_of_neg (by simp [isBlank_eq_false_of_isWordChar (hw c (by simp))])

lemma Heads.ne_stop (h : Heads text k rest) : k ≠ .stop := by
  cases h with
  | openParen => simp
  | closeParen => simp
  | word =>
    simp only [Kind.ofWord]
    split_ifs <;> simp

lemma Lexes.append (h : Lexes text ks) (h' : Lexes text' ks') (hb : Breaks text') :
    Lexes (text ++ text') (ks ++ ks') := by
  induction h with
  | nil => exact h'
  | blank hc _ ih => exact .blank hc ih
  | token ht _ ih => exact .token (ht.append hb) ih

lemma Lexes.of_dropWhile (h : Lexes (text.dropWhile isBlank) ks) : Lexes text ks := by
  induction text with
  | nil => exact h
  | cons c text ih =>
    rw [List.dropWhile_cons] at h
    split at h
    · exact .blank ‹_› (ih h)
    · exact h

lemma lexes_word {word : String} (h : IsWord word) : Lexes word.toList [.ofWord word] := by
  have hh : Heads (word.toList ++ []) (.ofWord (String.ofList word.toList)) [] :=
    .word (by simpa using h.1) h.2 (by simp [Breaks])
  rw [List.append_nil, String.ofList_toList] at hh
  exact .token hh .nil

lemma lexes_operator (op : Operator) : Lexes op.word.toList [.operator op] := by
  cases op with
  | and => exact lexes_word (by decide)
  | or => exact lexes_word (by decide)
  | not => exact lexes_word (by decide)

lemma Lexes.spaced (h : Lexes text ks) (h' : Lexes text' ks') :
    Lexes (text ++ ' ' :: text') (ks ++ ks') :=
  h.append (.blank rfl h') (by simp [Breaks, isWordChar])

lemma Lexes.group (h : Lexes text ks) : Lexes ('(' :: (text ++ [')'])) (.openParen :: (ks ++ [.closeParen])) :=
  .token .openParen (h.append (.token .closeParen .nil) (by simp [Breaks, isWordChar]))

end Token

namespace Lexer

variable {l m : Lexer} {t : Token} {k : Kind} {ks : List Kind} {text rest : List Char} {ts : List Token}

lemma rest_advance_takeWhile (p : Char → Bool) :
    (l.advance (l.rest.takeWhile p).length).rest = l.rest.dropWhile p := by
  calc l.rest.drop (l.rest.takeWhile p).length
      = (l.rest.takeWhile p ++ l.rest.dropWhile p).drop (l.rest.takeWhile p).length := by
        rw [List.takeWhile_append_dropWhile]
    _ = l.rest.dropWhile p := List.drop_left

lemma rest_skipBlanks : l.skipBlanks.rest = l.rest.dropWhile isBlank :=
  rest_advance_takeWhile isBlank

lemma here_of_heads (h : Heads l.rest k rest) : ∃ m, l.here = (.ok ⟨k, l.position⟩, m) ∧ m.rest = rest := by
  generalize hr : l.rest = text at h
  cases h with
  | openParen => exact ⟨l.advance 1, by simp [here, hr], by simp [advance, hr]⟩
  | closeParen => exact ⟨l.advance 1, by simp [here, hr], by simp [advance, hr]⟩
  | @word w _ hn hw hb =>
    have ht := takeWhile_isWordChar_append hw hb
    obtain ⟨c, w', rfl⟩ := List.exists_cons_of_ne_nil hn
    have hc : isWordChar c = true := hw c (by simp)
    have ho : c ≠ '(' := by
      rintro rfl
      exact absurd hc (by decide)
    have hp : c ≠ ')' := by
      rintro rfl
      exact absurd hc (by decide)
    refine ⟨l.advance (c :: w').length, ?_, ?_⟩
    · simp only [here, hr, ht]
      simp [ho, hp, hc]
    · simp [advance, hr]

lemma here_cases (h : l.here = (.ok t, m)) :
    l.rest = [] ∧ t.kind = .stop ∨ Heads l.rest t.kind m.rest := by
  rw [here] at h
  split at h
  · rename_i hc
    cases h
    exact .inl ⟨hc, rfl⟩
  · rename_i c cs hc
    right
    split at h
    · cases h
      simp_all [advance, Heads.openParen]
    · split at h
      · cases h
        simp_all [advance, Heads.closeParen]
      · split at h
        · rename_i hw
          cases h
          have hh : Heads (l.rest.takeWhile isWordChar ++ l.rest.dropWhile isWordChar)
              (.ofWord (String.ofList (l.rest.takeWhile isWordChar))) (l.rest.dropWhile isWordChar) :=
            .word (by simp [hc, hw]) (fun d hd => List.mem_takeWhile_imp hd) breaks_dropWhile
          rwa [List.takeWhile_append_dropWhile, ← rest_advance_takeWhile] at hh
        · cases h

lemma here_error {err : LexError} (h : l.here = (.error err, m)) :
    m = l ∧ err.position = l.position ∧ (∃ cs, l.rest = err.found :: cs) ∧
      err.found ≠ '(' ∧ err.found ≠ ')' ∧ isWordChar err.found = false := by
  rw [here] at h
  split at h
  · cases h
  · rename_i c cs hc
    split at h
    · cases h
    · split at h
      · cases h
      · split at h
        · cases h
        · cases h
          exact ⟨rfl, rfl, ⟨cs, hc⟩, ‹_›, ‹_›, Bool.eq_false_iff.mpr ‹_›⟩

lemma tokens_of_last (h : l.next = (.ok t, m)) (ht : t.kind = .stop) : l.tokens = .ok [t] := by
  rw [tokens]
  split
  · simp_all
  · simp_all

lemma tokens_of_stop (h : l.rest.dropWhile isBlank = []) : ∃ p, l.tokens = .ok [⟨.stop, p⟩] := by
  have hn : l.next = (.ok ⟨.stop, l.skipBlanks.position⟩, l.skipBlanks) := by
    simp [next, here, rest_skipBlanks, h]
  exact ⟨_, tokens_of_last hn rfl⟩

lemma tokens_of_next (h : l.next = (.ok t, m)) (ht : t.kind ≠ .stop) :
    l.tokens = (t :: ·) <$> m.tokens := by
  rw [tokens]
  split
  · simp_all
  · simp_all

lemma tokens_of_lexes (h : Lexes text ks) (hl : l.rest.dropWhile isBlank = text.dropWhile isBlank) :
    ∃ ts, l.tokens = .ok ts ∧ ts.map Token.kind = ks ++ [.stop] := by
  -- The lexer may stand before the blanks or behind them, so a blank in the text costs no step.
  induction h generalizing l with
  | nil =>
    obtain ⟨p, hp⟩ := tokens_of_stop hl
    exact ⟨_, hp, rfl⟩
  | blank hc _ ih => exact ih (by rw [hl, List.dropWhile_cons_of_pos hc])
  | token hh _ ih =>
    rw [hh.dropWhile_isBlank, ← rest_skipBlanks] at hl
    rw [← hl] at hh
    obtain ⟨m, hm, hr⟩ := here_of_heads hh
    obtain ⟨ts, hts, hk⟩ := ih (l := m) (by rw [hr])
    rw [tokens_of_next hm hh.ne_stop, hts]
    exact ⟨_, rfl, by rw [List.map_cons, hk]; rfl⟩

lemma lexes_of_tokens (h : l.tokens = .ok ts) : ∃ ks, ts.map Token.kind = ks ++ [.stop] ∧ Lexes l.rest ks := by
  fun_induction tokens l generalizing ts with
  | case1 => cases h
  | case2 l t m hn hs =>
    cases h
    obtain ⟨hr, -⟩ | hh := here_cases hn
    · rw [rest_skipBlanks] at hr
      exact ⟨[], by simp [hs], .of_dropWhile (hr ▸ .nil)⟩
    · exact absurd hs hh.ne_stop
  | case3 l t m hn hs ih =>
    cases hm : m.tokens with
    | error e => simp [hm, Functor.map, Except.map] at h
    | ok us =>
      obtain ⟨ks, hk, hx⟩ := ih hm
      simp only [hm, Functor.map, Except.map, Except.ok.injEq] at h
      obtain ⟨-, hs'⟩ | hh := here_cases hn
      · exact absurd hs' hs
      · rw [rest_skipBlanks] at hh
        exact ⟨t.kind :: ks, by simp [← h, hk], .of_dropWhile (.token hh hx)⟩

end Lexer

namespace Grammar

variable {text text' w : String} {e l r : Expr} {s : Symbol}

/-- The text writes the tree by the rule of the symbol. -/
def Spells (s : Symbol) (text : String) (e : Expr) : Prop :=
  ∃ ks, Lexes text.toList ks ∧ Derives s ks e

lemma readsAs_iff_spells : ReadsAs text e ↔ Spells .disjunction text e := by
  constructor
  · rintro ⟨ts, ht, hd⟩
    obtain ⟨ks, hk, hx⟩ := Lexer.lexes_of_tokens ht
    rw [List.map_dropLast, hk, List.dropLast_concat] at hd
    exact ⟨ks, hx, hd⟩
  · rintro ⟨ks, hx, hd⟩
    obtain ⟨ts, ht, hk⟩ := Lexer.tokens_of_lexes (l := .ofText text) hx rfl
    refine ⟨ts, ht, ?_⟩
    rwa [List.map_dropLast, hk, List.dropLast_concat]

lemma parse_of_spells (h : Spells .disjunction text e) : Expr.parse text = .ok e :=
  parse_eq_ok_iff.mpr (readsAs_iff_spells.mpr h)

lemma spells_of_parse (h : Expr.parse text = .ok e) : Spells .disjunction text e :=
  readsAs_iff_spells.mp (parse_eq_ok_iff.mp h)

lemma Spells.disjunction (h : Spells .conjunction text e) : Spells .disjunction text e := by
  obtain ⟨ks, hx, hd⟩ := h
  exact ⟨ks, hx, .conjunction hd⟩

lemma Spells.conjunction (h : Spells .unary text e) : Spells .conjunction text e := by
  obtain ⟨ks, hx, hd⟩ := h
  exact ⟨ks, hx, .unary hd⟩

lemma Spells.unary (h : Spells .primary text e) : Spells .unary text e := by
  obtain ⟨ks, hx, hd⟩ := h
  exact ⟨ks, hx, .primary hd⟩

lemma Spells.or (hl : Spells .disjunction text l) (hr : Spells .conjunction text' r) :
    Spells .disjunction (text ++ " OR " ++ text') (.or l r) := by
  obtain ⟨ks, hx, hd⟩ := hl
  obtain ⟨ks', hx', hd'⟩ := hr
  have h := hx.spaced ((lexes_operator .or).spaced hx')
  exact ⟨_, by simpa [Operator.word] using h, hd.or hd'⟩

lemma Spells.and (hl : Spells .conjunction text l) (hr : Spells .unary text' r) :
    Spells .conjunction (text ++ " AND " ++ text') (.and l r) := by
  obtain ⟨ks, hx, hd⟩ := hl
  obtain ⟨ks', hx', hd'⟩ := hr
  have h := hx.spaced ((lexes_operator .and).spaced hx')
  exact ⟨_, by simpa [Operator.word] using h, hd.and hd'⟩

lemma Spells.not (h : Spells .unary text e) : Spells .unary ("NOT " ++ text) (.not e) := by
  obtain ⟨ks, hx, hd⟩ := h
  have h := (lexes_operator .not).spaced hx
  exact ⟨_, by simpa [Operator.word] using h, hd.not⟩

lemma Spells.group (h : Spells .disjunction text e) : Spells .primary ("(" ++ text ++ ")") e := by
  obtain ⟨ks, hx, hd⟩ := h
  exact ⟨_, by simpa using hx.group, hd.group⟩

lemma spells_constant (b : Bool) : Spells .primary (Kind.constantWord b) (.constant b) := by
  refine ⟨_, ?_, .constant b⟩
  cases b with
  | true => exact lexes_word (by decide)
  | false => exact lexes_word (by decide)

lemma spells_name (h : IsName w) : Spells .primary w (.leaf (.ofName w)) := by
  refine ⟨_, ?_, .name w⟩
  rw [← h.ofWord]
  exact lexes_word h.1

lemma Spells.or_foldl {texts : List String} {es : List Expr} (h : Spells .disjunction text e)
    (hs : List.Forall₂ (Spells .conjunction) texts es) :
    Spells .disjunction (texts.foldl (fun text text' => text ++ " OR " ++ text') text) (es.foldl .or e) := by
  induction hs generalizing text e with
  | nil => exact h
  | cons hc _ ih => exact ih (h.or hc)

lemma Spells.or_foldl_map {α : Type} {as : List α} {f : α → String} {g : α → Expr}
    (h : Spells .disjunction text e) (hs : ∀ a ∈ as, Spells .conjunction (f a) (g a)) :
    Spells .disjunction ((as.map f).foldl (fun text text' => text ++ " OR " ++ text') text)
      ((as.map g).foldl .or e) := by
  apply h.or_foldl
  rw [List.forall₂_map_left_iff, List.forall₂_map_right_iff, List.forall₂_same]
  exact hs

lemma intercalate_cons (sep text : String) (texts : List String) :
    sep.intercalate (text :: texts) = texts.foldl (fun text text' => text ++ sep ++ text') text := by
  induction texts generalizing text with
  | nil => rfl
  | cons text' texts ih => exact ih (text ++ sep ++ text')

end Grammar

end TriggerLogic
