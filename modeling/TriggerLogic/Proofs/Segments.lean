import TriggerLogic.Proofs.Layout
import TriggerLogic.Proofs.Pulling

/-! A text without foreign characters is the layout of its tokens, and one with foreign characters
fails at the first of them. -/

namespace TriggerLogic

open Token

namespace Token

def whiteSpace : List Char :=
  [' ', '\t', '\n', '\x0c', '\r']

def IsVisible (c : Char) : Prop :=
  '!' ≤ c ∧ c ≤ '~'

def InWord (c : Char) : Prop :=
  IsVisible c ∧ c ∉ ['(', ')']

def IsForeign (c : Char) : Prop :=
  c ∉ whiteSpace ∧ ¬IsVisible c

def FirstForeign (text : String) (err : LexError) : Prop :=
  ∃ before after, text = before ++ err.found.toString ++ after ∧ before.utf8ByteSize = err.position ∧
    IsForeign err.found ∧ ∀ c ∈ before.toList, ¬IsForeign c

def IsSlice (text : String) (offset : Nat) (part : String) : Prop :=
  ∃ before after, text = before ++ part ++ after ∧ before.utf8ByteSize = offset

def IsRest (text : String) (offset : Nat) (rest : String) : Prop :=
  ∃ before, text = before ++ rest ∧ before.utf8ByteSize = offset

/-- The token's own text is a slice at its position, and no word goes on at either side of a word. -/
def Stands (text : String) (t : Token) : Prop :=
  ∃ before after, text = before ++ t.kind.text ++ after ∧ before.utf8ByteSize = t.position ∧
    (t.kind.isWord = true →
      (∀ c ∈ before.toList.getLast?, ¬InWord c) ∧ ∀ c ∈ after.toList.head?, ¬InWord c)

def Covers (t : Token) (offset : Nat) : Prop :=
  t.position ≤ offset ∧ offset < t.position + t.kind.text.utf8ByteSize

def Kind.SpelledWord (k : Kind) : Prop :=
  k.isWord = true ∧ (k.text ≠ "" ∧ ∀ c ∈ k.text.toList, InWord c) ∧
    (k = .name k.text ↔ k.text ∉ ["AND", "OR", "NOT", "TRUE", "FALSE"])

/-- The text is cut up into the tokens and the white space around them. -/
structure Cuts (text : String) (body : List Token) : Prop where
  stands : ∀ t ∈ body, Stands text t
  spelled : ∀ t ∈ body, t.kind = .openParen ∨ t.kind = .closeParen ∨ t.kind.SpelledWord
  blank : ∀ before c after, text = before ++ c.toString ++ after →
    (∀ t ∈ body, ¬Covers t before.utf8ByteSize) → c ∈ whiteSpace

variable {c : Char} {k : Kind} {text rest : List Char} {word : String}

lemma isBlank_iff : isBlank c = true ↔ c ∈ whiteSpace := by
  simp [isBlank, whiteSpace, or_assoc]

lemma isWordChar_iff : isWordChar c = true ↔ InWord c := by
  simp [isWordChar, InWord, IsVisible, and_assoc]

lemma not_inWord (h : isWordChar c = false) : ¬InWord c :=
  fun hc => Bool.false_ne_true (h.symm.trans (isWordChar_iff.mpr hc))

lemma isForeign_of_unread (hb : isBlank c = false) (ho : c ≠ '(') (hc : c ≠ ')')
    (hw : isWordChar c = false) : IsForeign c := by
  refine ⟨fun h => ?_, fun h => not_inWord hw ⟨h, by simp [ho, hc]⟩⟩
  rw [isBlank_iff.mpr h] at hb
  cases hb

lemma cut_append {l r before after : List Char} (h : l ++ r = before ++ c :: after) :
    (∃ more, l = before ++ c :: more) ∨ ∃ more, before = l ++ more ∧ r = more ++ c :: after := by
  obtain ⟨more, hb, hr⟩ | ⟨more, hl, hr⟩ := List.append_eq_append_iff.mp h
  · exact .inr ⟨more, hb, hr⟩
  · cases more with
    | nil => exact .inr ⟨[], by simpa using hl.symm, by simpa using hr.symm⟩
    | cons d more =>
      obtain ⟨rfl, -⟩ := List.cons.inj hr
      exact .inl ⟨more, hl⟩

lemma text_ofWord (word : String) : (Kind.ofWord word).text = word := by
  rw [Kind.ofWord]
  split_ifs <;> first | rfl | (symm; assumption)

lemma written_ofWord (h : IsWord word) : (Kind.ofWord word).Written := by
  rw [Kind.ofWord]
  split_ifs <;> first | trivial | exact ⟨h, by simp_all [reserved]⟩

lemma Heads.spells (h : Heads text k rest) :
    k.Written ∧ text = k.text.toList ++ rest ∧ (k.isWord = true → Breaks rest) := by
  cases h with
  | openParen => exact ⟨trivial, rfl, fun hk => by cases hk⟩
  | closeParen => exact ⟨trivial, rfl, fun hk => by cases hk⟩
  | @word w _ hn hw hb =>
    refine ⟨written_ofWord ⟨by simpa using hn, by simpa using hw⟩, ?_, fun _ => hb⟩
    rw [text_ofWord, String.toList_ofList]

lemma Kind.Written.isWord_text (h : k.Written) (hk : k.isWord = true) : IsWord k.text := by
  cases k with
  | operator op => cases op <;> decide
  | constant value => cases value <;> decide
  | name word => exact h.1
  | openParen => cases hk
  | closeParen => cases hk
  | stop => cases hk

lemma Kind.Written.text_ne_empty (h : k.Written) : k.text ≠ "" := by
  cases hk : k.isWord with
  | true => exact (h.isWord_text hk).1
  | false =>
    cases k with
    | openParen => decide
    | closeParen => decide
    | stop => exact h.elim
    | _ => cases hk

lemma Kind.Written.not_isForeign (h : k.Written) : ∀ c ∈ k.text.toList, ¬IsForeign c := by
  cases hk : k.isWord with
  | true => exact fun c hc hf => hf.2 (isWordChar_iff.mp ((h.isWord_text hk).2 c hc)).1
  | false =>
    cases k with
    | openParen =>
      rintro c hc ⟨-, hf⟩
      obtain rfl := List.mem_singleton.mp hc
      exact hf ⟨by decide, by decide⟩
    | closeParen =>
      rintro c hc ⟨-, hf⟩
      obtain rfl := List.mem_singleton.mp hc
      exact hf ⟨by decide, by decide⟩
    | stop => exact h.elim
    | _ => cases hk

lemma Kind.Written.spelled (h : k.Written) : k = .openParen ∨ k = .closeParen ∨ k.SpelledWord := by
  cases hk : k.isWord with
  | true =>
    obtain ⟨hn, hc⟩ := h.isWord_text hk
    refine .inr (.inr ⟨hk, ⟨hn, fun c hm => isWordChar_iff.mp (hc c hm)⟩, ?_⟩)
    cases k with
    | operator op => cases op <;> decide
    | constant value => cases value <;> decide
    | name word => exact ⟨fun _ => h.2, fun _ => rfl⟩
    | _ => cases hk
  | false =>
    cases k with
    | openParen => exact .inl rfl
    | closeParen => exact .inr (.inl rfl)
    | stop => exact h.elim
    | _ => cases hk

end Token

namespace Lexer

variable {l m n : Lexer} {part part' : String} {a : Answer}

def Passes (l : Lexer) (part : String) (m : Lexer) : Prop :=
  l.rest = part.toList ++ m.rest ∧ m.position = l.position + part.utf8ByteSize

lemma Passes.trans (h : l.Passes part m) (h' : m.Passes part' n) : l.Passes (part ++ part') n := by
  refine ⟨?_, ?_⟩
  · rw [h.1, h'.1, String.toList_append, List.append_assoc]
  · rw [h'.2, h.2, String.utf8ByteSize_append, Nat.add_assoc]

lemma passes_skipBlanks (l : Lexer) : ∃ gap, IsGap gap ∧ l.Passes gap l.skipBlanks := by
  have hg : IsGap (String.ofList (l.rest.takeWhile isBlank)) := by
    intro c hc
    rw [String.toList_ofList] at hc
    exact List.mem_takeWhile_imp hc
  refine ⟨_, hg, ?_, ?_⟩
  · rw [String.toList_ofList, rest_skipBlanks, List.takeWhile_append_dropWhile]
  · rw [utf8ByteSize_of_ascii hg.ascii, String.toList_ofList]
    rfl

inductive Meets (l : Lexer) : Answer → Lexer → Prop
  | stop {gap m} : IsGap gap → l.Passes gap m → m.rest = [] → Meets l (.ok ⟨.stop, m.position⟩) m
  | token {gap k m} : IsGap gap → k.Written → (k.isWord = true → Breaks m.rest) →
      l.Passes (gap ++ k.text) m → Meets l (.ok ⟨k, l.position + gap.utf8ByteSize⟩) m
  | foreign {gap c cs m} : IsGap gap → l.Passes gap m → m.rest = c :: cs → IsForeign c →
      Meets l (.error ⟨m.position, c⟩) m

lemma next_meets (h : l.next = (a, m)) : Meets l a m := by
  obtain ⟨gap, hg, hs⟩ := l.passes_skipBlanks
  rw [next] at h
  cases a with
  | error err =>
    obtain ⟨rfl, hp, ⟨cs, hr⟩, ho, hc, hw⟩ := here_error h
    have hb : isBlank err.found = false := by
      have hn := List.head?_dropWhile_not isBlank l.rest
      rw [← rest_skipBlanks, hr] at hn
      exact hn
    have hf := Meets.foreign hg hs hr (isForeign_of_unread hb ho hc hw)
    rwa [← hp] at hf
  | ok t =>
    obtain ⟨hr, hk⟩ | hd := here_cases h
    · rw [here, hr] at h
      cases h
      exact .stop hg hs hr
    · obtain ⟨hw, hr, hb⟩ := hd.spells
      obtain ⟨m', hm, -⟩ := here_of_heads hd
      have ht : t = ⟨t.kind, l.position + gap.utf8ByteSize⟩ := by
        rw [h, Prod.mk.injEq, Except.ok.injEq] at hm
        rw [hm.1, hs.2]
      have hp : l.skipBlanks.Passes t.kind.text m := by
        refine ⟨hr, ?_⟩
        have hpos := position_here h
        rw [hr, List.length_append, ← utf8ByteSize_of_ascii hw.ascii] at hpos
        omega
      rw [ht]
      exact .token hg hw hb (hs.trans hp)

end Lexer

namespace Layout

variable {l : Lexer} {ts : List Token}

def prepend (gap : String) (k : Kind) (layout : Layout) (hg : IsGap gap) (hk : k.Written)
    (hb : k.isWord = true → Breaks layout.text.toList) : Layout where
  pieces := (gap, k) :: layout.pieces
  tail := layout.tail
  gap := List.forall_mem_cons.mpr ⟨hg, layout.gap⟩
  tailGap := layout.tailGap
  written := List.forall_mem_cons.mpr ⟨hk, layout.written⟩
  apart := by
    refine List.isChain_cons.mpr ⟨fun piece hp hw hw' he => ?_, layout.apart⟩
    obtain ⟨pieces, hps⟩ := List.head?_eq_some_iff.mp hp
    obtain ⟨hn, hc⟩ := (layout.written piece (by simp [hps])).isWord_text hw'
    obtain ⟨c, cs, hcs⟩ := List.exists_cons_of_ne_nil (l := piece.2.text.toList) (by simpa using hn)
    have hr : layout.text.toList.head? = some c := by
      simp [text, hps, write, he, hcs]
    have hf := hb hw c hr
    rw [hc c (by simp [hcs])] at hf
    cases hf

lemma exists_of_tokens (h : l.tokens = .ok ts) :
    ∃ layout : Layout, layout.text.toList = l.rest ∧ place layout.tail l.position layout.pieces = ts := by
  fun_induction Lexer.tokens l generalizing ts with
  | case1 => cases h
  | case2 l t m hn hs =>
    cases h
    cases Lexer.next_meets hn with
    | @stop gap _ hg hp hr =>
      refine ⟨⟨[], gap, by simp, hg, by simp, .nil⟩, ?_, ?_⟩
      · rw [hp.1, hr, List.append_nil]
        rfl
      · rw [hp.2]
        rfl
    | token _ hw => exact absurd hs fun hs => (hs ▸ hw : Kind.Written .stop)
  | case3 l t m hn hs ih =>
    cases hm : m.tokens with
    | error e => simp [hm, Functor.map, Except.map] at h
    | ok us =>
      obtain ⟨layout, ht, hp⟩ := ih hm
      simp only [hm, Functor.map, Except.map, Except.ok.injEq] at h
      cases Lexer.next_meets hn with
      | stop => exact absurd rfl hs
      | @token gap k _ hg hw hb hpass =>
        refine ⟨layout.prepend gap k hg hw (by rwa [ht]), ?_, ?_⟩
        · simpa [prepend, text, write, hpass.1] using ht
        · rw [← h, ← hp, hpass.2, String.utf8ByteSize_append, ← Nat.add_assoc]
          rfl

variable {offset : Nat} {gap tail : String} {k : Kind} {pieces ps qs : List (String × Kind)} {t : Token}

lemma write_append : write tail (ps ++ (gap, k) :: qs) = write gap ps ++ k.text ++ write tail qs := by
  induction ps with
  | nil => rfl
  | cons piece ps ih => simp only [List.cons_append, write, ih, String.append_assoc]

lemma exists_split_of_mem_place (h : t ∈ place tail offset pieces) (ht : t.kind ≠ .stop) :
    ∃ ps gap qs, pieces = ps ++ (gap, t.kind) :: qs ∧
      t.position = offset + (write gap ps).utf8ByteSize := by
  induction pieces generalizing offset with
  | nil =>
    obtain rfl := List.mem_singleton.mp h
    exact absurd rfl ht
  | cons piece pieces ih =>
    obtain ⟨gap, k⟩ := piece
    obtain rfl | h := List.mem_cons.mp h
    · exact ⟨[], gap, pieces, rfl, rfl⟩
    · obtain ⟨ps, gap', qs, rfl, hp⟩ := ih h
      refine ⟨(gap, k) :: ps, gap', qs, rfl, ?_⟩
      rw [hp, write, String.utf8ByteSize_append, String.utf8ByteSize_append]
      omega

lemma getLast?_write (hk : k.isWord = true) (hg : IsGap gap) (hw : ∀ piece ∈ ps, piece.2.Written)
    (ha : (ps ++ [(gap, k)]).IsChain fun a b => a.2.isWord = true → b.2.isWord = true → b.1 ≠ "") :
    ∀ c ∈ (write gap ps).toList.getLast?, isWordChar c = false := by
  have hn : ∀ c ∈ gap.toList.getLast?, isWordChar c = false := fun c hc =>
    isWordChar_eq_false_of_isBlank (hg c (List.mem_of_mem_getLast? hc))
  obtain rfl | ⟨ps, ⟨gap', k'⟩, rfl⟩ := List.eq_nil_or_concat ps
  · exact hn
  · -- A token stands in front. Behind a gap it does not matter, and without one it is no word.
    rw [List.concat_eq_append, List.append_assoc, List.singleton_append] at ha
    have ha' := (List.isChain_append_cons_cons.mp ha).2.1
    have hk' : k'.Written := hw (gap', k') (by simp)
    rw [List.concat_eq_append, write_append, write, String.toList_append]
    intro c hc
    by_cases he : gap = ""
    · rw [he, String.toList_append] at hc
      cases k' with
      | openParen =>
        obtain rfl : c = '(' := by simpa [Kind.text, eq_comm] using hc
        decide
      | closeParen =>
        obtain rfl : c = ')' := by simpa [Kind.text, eq_comm] using hc
        decide
      | stop => exact hk'.elim
      | _ => exact absurd he (ha' rfl hk)
    · rw [List.getLast?_append_of_ne_nil _ (by simpa using he)] at hc
      exact hn c hc

lemma pairwise_place (tail : String) (offset : Nat) (hw : ∀ piece ∈ pieces, piece.2.Written) :
    (∀ t ∈ place tail offset pieces, offset ≤ t.position) ∧
      (place tail offset pieces).Pairwise fun t u => t.position < u.position := by
  induction pieces generalizing offset with
  | nil => simp [place]
  | cons piece pieces ih =>
    obtain ⟨gap, k⟩ := piece
    obtain ⟨hk, hks⟩ := List.forall_mem_cons.mp hw
    have hpos : 0 < k.text.utf8ByteSize :=
      Nat.pos_of_ne_zero fun hz => hk.text_ne_empty (String.utf8ByteSize_eq_zero_iff.mp hz)
    obtain ⟨hle, hlt⟩ := ih (offset + gap.utf8ByteSize + k.text.utf8ByteSize) hks
    refine ⟨List.forall_mem_cons.mpr ⟨Nat.le_add_right _ _, fun t ht => ?_⟩, .cons (fun t ht => ?_) hlt⟩
    · have := hle t ht
      omega
    · have := hle t ht
      dsimp only
      omega

lemma blank_or_covered (offset : Nat) {before after : List Char} {c : Char} (hg : ∀ piece ∈ pieces, IsGap piece.1)
    (ht : IsGap tail) (h : (write tail pieces).toList = before ++ c :: after) :
    isBlank c = true ∨ ∃ t ∈ place tail offset pieces,
      t.position ≤ offset + (String.ofList before).utf8ByteSize ∧
      offset + (String.ofList before).utf8ByteSize < t.position + t.kind.text.utf8ByteSize := by
  induction pieces generalizing offset before with
  | nil => exact .inl (ht c (h ▸ List.mem_append_right _ List.mem_cons_self))
  | cons piece pieces ih =>
    obtain ⟨gap, k⟩ := piece
    obtain ⟨hg', hgs⟩ : IsGap gap ∧ ∀ piece ∈ pieces, IsGap piece.1 := List.forall_mem_cons.mp hg
    rw [write, String.toList_append, String.toList_append, List.append_assoc] at h
    -- The character is in the first gap, in the first token or behind both.
    obtain ⟨more, hm⟩ | ⟨before, rfl, hr⟩ := cut_append h
    · exact .inl (hg' c (by simp [hm]))
    rw [String.ofList_append, String.ofList_toList, String.utf8ByteSize_append]
    obtain ⟨more, hm⟩ | ⟨before, rfl, hs⟩ := cut_append hr
    · refine .inr ⟨_, List.mem_cons_self, ?_⟩
      have hk : k.text = String.ofList before ++ String.ofList (c :: more) := by
        rw [← String.ofList_append, ← hm, String.ofList_toList]
      have hc : (String.ofList (c :: more)).utf8ByteSize ≠ 0 := by
        rw [ne_eq, String.utf8ByteSize_eq_zero_iff]
        simp
      dsimp only
      rw [hk, String.utf8ByteSize_append]
      omega
    · rw [String.ofList_append, String.ofList_toList, String.utf8ByteSize_append, ← Nat.add_assoc,
        ← Nat.add_assoc]
      exact (ih _ hgs hs).imp_right fun ⟨t, ht, hc⟩ => ⟨t, List.mem_cons_of_mem _ ht, hc⟩

lemma place_eq_append (tail : String) (offset : Nat) (hw : ∀ piece ∈ pieces, piece.2.Written) :
    ∃ body,
    place tail offset pieces = body ++ [⟨.stop, offset + (write tail pieces).utf8ByteSize⟩] ∧
      ∀ t ∈ body, t.kind.Written := by
  induction pieces generalizing offset with
  | nil => exact ⟨[], rfl, by simp⟩
  | cons piece pieces ih =>
    obtain ⟨gap, k⟩ := piece
    obtain ⟨hk, hks⟩ := List.forall_mem_cons.mp hw
    obtain ⟨body, hb, hbw⟩ := ih (offset + gap.utf8ByteSize + k.text.utf8ByteSize) hks
    refine ⟨⟨k, offset + gap.utf8ByteSize⟩ :: body, ?_, List.forall_mem_cons.mpr ⟨hk, hbw⟩⟩
    rw [place, hb, write, String.utf8ByteSize_append, String.utf8ByteSize_append, ← Nat.add_assoc,
      ← Nat.add_assoc]
    rfl

lemma not_isForeign_write (hg : ∀ piece ∈ pieces, IsGap piece.1) (ht : IsGap tail)
    (hw : ∀ piece ∈ pieces, piece.2.Written) : ∀ c ∈ (write tail pieces).toList, ¬IsForeign c := by
  induction pieces with
  | nil => exact fun c hc hf => hf.1 (isBlank_iff.mp (ht c hc))
  | cons piece pieces ih =>
    obtain ⟨gap, k⟩ := piece
    obtain ⟨hg', hgs⟩ : IsGap gap ∧ ∀ piece ∈ pieces, IsGap piece.1 := List.forall_mem_cons.mp hg
    obtain ⟨hk, hks⟩ : k.Written ∧ ∀ piece ∈ pieces, piece.2.Written := List.forall_mem_cons.mp hw
    intro c hc
    rw [write, String.toList_append, String.toList_append, List.mem_append, List.mem_append] at hc
    rcases hc with (hc | hc) | hc
    · exact fun hf => hf.1 (isBlank_iff.mp (hg' c hc))
    · exact hk.not_isForeign c hc
    · exact ih hgs hks c hc

lemma stands (layout : Layout) {t : Token} (h : t ∈ layout.tokens) (ht : t.kind ≠ .stop) :
    Stands layout.text t := by
  obtain ⟨ps, gap, qs, hp, hpos⟩ := exists_split_of_mem_place h ht
  have hg := layout.gap
  have hw := layout.written
  have ha := layout.apart
  rw [hp] at hg hw ha
  have hl := ha
  rw [List.append_cons] at hl
  refine ⟨write gap ps, write layout.tail qs, by rw [text, hp, write_append], by rw [hpos, Nat.zero_add],
    fun hk => ⟨fun c hc => not_inWord ?_, fun c hc => not_inWord ?_⟩⟩
  · exact getLast?_write hk (hg (gap, t.kind) (by simp)) (fun piece hm => hw piece (by simp [hm]))
      hl.left_of_append c hc
  · exact breaks_write hk (fun piece hm => hg piece (by simp [hm])) layout.tailGap
      (fun piece hm => hw piece (by simp [hm])) ha.right_of_append c hc

lemma cuts (layout : Layout) : ∃ body,
    layout.tokens = body ++ [⟨.stop, layout.text.utf8ByteSize⟩] ∧ Cuts layout.text body := by
  obtain ⟨body, hb, hw⟩ := place_eq_append layout.tail 0 layout.written
  rw [Nat.zero_add, ← text, ← tokens] at hb
  refine ⟨body, hb, fun t ht => ?_, fun t ht => (hw t ht).spelled, fun before c after h hn => ?_⟩
  · refine layout.stands (hb ▸ List.mem_append_left _ ht) fun hs => ?_
    have hk := hw t ht
    rwa [hs] at hk
  · have hl : (write layout.tail layout.pieces).toList = before.toList ++ c :: after.toList := by
      rw [← text, h]
      simp
    refine isBlank_iff.mp ((blank_or_covered 0 layout.gap layout.tailGap hl).resolve_right ?_)
    rintro ⟨t, ht, hc⟩
    rw [String.ofList_toList, Nat.zero_add] at hc
    rw [← tokens, hb, List.mem_append, List.mem_singleton] at ht
    obtain ht | rfl := ht
    · exact hn t ht hc
    · exact Nat.not_lt.mpr hc.1 hc.2

end Layout

namespace Lexer

variable {l m : Lexer} {a : Answer} {err : LexError} {text before : String}

lemma exists_foreign_of_tokens (h : l.tokens = .error err) : ∃ part : String, ∃ cs,
    l.rest = part.toList ++ err.found :: cs ∧ err.position = l.position + part.utf8ByteSize ∧
      IsForeign err.found ∧ ∀ c ∈ part.toList, ¬IsForeign c := by
  fun_induction tokens l with
  | case1 l err' m hn =>
    cases h
    cases next_meets hn with
    | @foreign gap c cs _ hg hp hr hf =>
      exact ⟨gap, cs, by rw [hp.1, hr], hp.2, hf, fun c hc hf => hf.1 (isBlank_iff.mp (hg c hc))⟩
  | case2 => cases h
  | case3 l t m hn hs ih =>
    have hm : m.tokens = .error err := by
      cases hm : m.tokens with
      | ok us => simp [hm, Functor.map, Except.map] at h
      | error e => simpa [hm, Functor.map, Except.map] using h
    obtain ⟨part, cs, hr, hp, hf, hn'⟩ := ih hm
    cases next_meets hn with
    | stop => exact absurd rfl hs
    | @token gap k _ hg hw _ hpass =>
      refine ⟨gap ++ k.text ++ part, cs, ?_, ?_, hf, fun c hc => ?_⟩
      · rw [hpass.1, hr, ← List.append_assoc, ← String.toList_append]
      · rw [hp, hpass.2, Nat.add_assoc, ← String.utf8ByteSize_append]
      · rw [String.toList_append, String.toList_append, List.mem_append, List.mem_append] at hc
        rcases hc with (hc | hc) | hc
        · exact fun hf => hf.1 (isBlank_iff.mp (hg c hc))
        · exact hw.not_isForeign c hc
        · exact hn' c hc

lemma Meets.passes (h : Meets l a m) : ∃ part, l.Passes part m := by
  cases h with
  | stop _ hp => exact ⟨_, hp⟩
  | token _ _ _ hp => exact ⟨_, hp⟩
  | foreign _ hp => exact ⟨_, hp⟩

lemma passes_step (l : Lexer) (call : Call) : ∃ part, l.Passes part (l.step call) := by
  cases h : l.answer call with
  | none =>
    rw [step_of_answer_none h]
    exact ⟨"", rfl, rfl⟩
  | some a =>
    obtain ⟨-, hr, hp⟩ := step_of_answer_some h
    obtain ⟨part, hpr, hpp⟩ := (next_meets (Prod.mk.eta (p := l.next)).symm).passes
    exact ⟨part, by rw [hr, hpr], by rw [hp, hpp]⟩

lemma passes_after (l : Lexer) (past : List Call) : ∃ part, l.Passes part (l.after past) := by
  induction past with
  | nil => exact ⟨"", rfl, rfl⟩
  | cons call past ih =>
    obtain ⟨part, hp⟩ := ih
    obtain ⟨part', hp'⟩ := (l.after past).passes_step call
    exact ⟨part ++ part', hp.trans hp'⟩

lemma Passes.isRest (h : (ofText text).Passes before l) :
    IsRest text l.position (String.ofList l.rest) := by
  refine ⟨before, ?_, ?_⟩
  · have hr : text.toList = before.toList ++ l.rest := h.1
    apply String.toList_injective
    simpa using hr
  · rw [h.2]
    exact (Nat.zero_add _).symm

lemma Passes.isSlice (h : (ofText text).Passes before l) (gap part : String)
    (hp : l.Passes (gap ++ part) m) : IsSlice text (l.position + gap.utf8ByteSize) part := by
  obtain ⟨before', hr, hb⟩ := h.isRest
  refine ⟨before' ++ gap, String.ofList m.rest, ?_, by rw [String.utf8ByteSize_append, hb]⟩
  rw [hr, hp.1]
  apply String.toList_injective
  simp

lemma isSlice_next {t : Token} (h : (ofText text).Passes before l) (ht : l.next.1 = .ok t) :
    IsSlice text t.position t.kind.text := by
  have hm : Meets l (.ok t) l.next.2 := next_meets (by rw [← ht])
  cases hm with
  | @stop gap _ hg hp =>
    rw [hp.2]
    exact h.isSlice gap "" (by simpa using hp)
  | token _ _ _ hp => exact h.isSlice _ _ hp

end Lexer

lemma Layout.exists_of_tokenize {text : String} {ts : List Token} (h : tokenize text = .ok ts) :
    ∃ layout : Layout, layout.text = text ∧ layout.tokens = ts := by
  obtain ⟨layout, ht, hp⟩ := exists_of_tokens h
  exact ⟨layout, String.toList_injective ht, hp⟩

lemma firstForeign_of_tokenize {text : String} {err : LexError} (h : tokenize text = .error err) :
    FirstForeign text err := by
  obtain ⟨before, after, hr, hp, hf, hn⟩ := Lexer.exists_foreign_of_tokens h
  refine ⟨before, String.ofList after, ?_, by rw [hp]; exact (Nat.zero_add _).symm, hf, hn⟩
  apply String.toList_injective
  have hr' : text.toList = before.toList ++ err.found :: after := hr
  simp [hr']

theorem tokenize_cuts (text : String) :
    ((∃ err, tokenize text = .error err) ↔ ∃ c ∈ text.toList, IsForeign c) ∧
    (∀ err, tokenize text = .error err → FirstForeign text err) ∧
    (∀ ts, tokenize text = .ok ts → ts.Pairwise (fun t u => t.position < u.position) ∧
      ∃ body, ts = body ++ [⟨.stop, text.utf8ByteSize⟩] ∧ Cuts text body) ∧
    ∀ past, let l := (Lexer.ofText text).after past
      IsRest text l.position (String.ofList l.rest) ∧
      IsRest text l.skipBlanks.position (String.ofList l.skipBlanks.rest) ∧
      ∀ t, l.next.1 = .ok t → IsSlice text t.position t.kind.text := by
  refine ⟨⟨?_, ?_⟩, fun err => firstForeign_of_tokenize, fun ts hts => ?_, fun past => ?_⟩
  · rintro ⟨err, he⟩
    obtain ⟨before, after, rfl, -, hf, -⟩ := firstForeign_of_tokenize he
    exact ⟨err.found, by simp, hf⟩
  · rintro ⟨c, hc, hf⟩
    cases hts : tokenize text with
    | error err => exact ⟨err, rfl⟩
    | ok ts =>
      obtain ⟨layout, rfl, -⟩ := Layout.exists_of_tokenize hts
      exact absurd hf (Layout.not_isForeign_write layout.gap layout.tailGap layout.written c hc)
  · obtain ⟨layout, rfl, rfl⟩ := Layout.exists_of_tokenize hts
    exact ⟨(Layout.pairwise_place _ _ layout.written).2, layout.cuts⟩
  · obtain ⟨before, hb⟩ := (Lexer.ofText text).passes_after past
    obtain ⟨gap, -, hg⟩ := ((Lexer.ofText text).after past).passes_skipBlanks
    exact ⟨hb.isRest, (hb.trans hg).isRest, fun t => Lexer.isSlice_next hb⟩

end TriggerLogic
