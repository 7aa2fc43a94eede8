import Mathlib.Data.List.Chain
import Mathlib.Data.String.Basic
import TriggerLogic.Proofs.Positions
import TriggerLogic.Proofs.Spelling

/-! Tokens can be written down with any blanks around them, as long as two words do not touch, and
the lexer finds each one at the place where it was put. -/

namespace TriggerLogic

open Token

namespace Token

def Kind.text : Kind → String
  | .operator op => op.word
  | .openParen => "("
  | .closeParen => ")"
  | .constant value => constantWord value
  | .name word => word
  | .stop => ""

def Kind.isWord : Kind → Bool
  | .operator _ | .constant _ | .name _ => true
  | _ => false

def Kind.Written : Kind → Prop
  | .name word => IsName word
  | .stop => False
  | _ => True

instance : DecidablePred Kind.Written
  | .name word => inferInstanceAs (Decidable (IsName word))
  | .stop => inferInstanceAs (Decidable False)
  | .operator _ | .openParen | .closeParen | .constant _ => inferInstanceAs (Decidable True)

def IsGap (gap : String) : Prop :=
  ∀ c ∈ gap.toList, isBlank c = true

instance : DecidablePred IsGap :=
  fun gap => decidable_of_iff (gap.toList.all isBlank = true) (by simp [IsGap])

end Token

/-- Kinds with the blanks in front of each and behind the last. -/
structure Layout where
  pieces : List (String × Kind)
  tail : String
  gap : ∀ piece ∈ pieces, IsGap piece.1
  tailGap : IsGap tail
  written : ∀ piece ∈ pieces, piece.2.Written
  apart : pieces.IsChain fun a b => a.2.isWord = true → b.2.isWord = true → b.1 ≠ ""

namespace Layout

def write (tail : String) : List (String × Kind) → String
  | [] => tail
  | (gap, kind) :: pieces => gap ++ kind.text ++ write tail pieces

def place (tail : String) : Nat → List (String × Kind) → List Token
  | offset, [] => [⟨.stop, offset + tail.utf8ByteSize⟩]
  | offset, (gap, kind) :: pieces =>
    ⟨kind, offset + gap.utf8ByteSize⟩ ::
      place tail (offset + gap.utf8ByteSize + kind.text.utf8ByteSize) pieces

def kinds (l : Layout) : List Kind :=
  l.pieces.map Prod.snd

def text (l : Layout) : String :=
  write l.tail l.pieces

def tokens (l : Layout) : List Token :=
  place l.tail 0 l.pieces

end Layout

namespace Token

variable {c : Char} {k : Kind} {rest : List Char} {text : String}

lemma isWordChar_eq_false_of_isBlank (h : isBlank c = true) : isWordChar c = false := by
  by_contra hw
  simp [isBlank_eq_false_of_isWordChar (Bool.not_eq_false _ ▸ hw)] at h

lemma IsGap.breaks (h : IsGap text) (hr : Breaks rest) : Breaks (text.toList ++ rest) := by
  refine Breaks.append (fun c hc => ?_) hr
  exact isWordChar_eq_false_of_isBlank (h c (List.mem_of_mem_head? hc))

lemma heads_text (hk : k.Written) (hb : k.isWord = true → Breaks rest) :
    Heads (k.text.toList ++ rest) k rest := by
  have hw : ∀ {word}, IsWord word → Breaks rest → Heads (word.toList ++ rest) (.ofWord word) rest := by
    intro word hw hb
    have hh : Heads (word.toList ++ rest) (.ofWord (String.ofList word.toList)) rest :=
      .word (by simpa using hw.1) hw.2 hb
    rwa [String.ofList_toList] at hh
  cases k with
  | operator op => cases op <;> exact hw (by decide) (hb rfl)
  | openParen => exact .openParen
  | closeParen => exact .closeParen
  | constant value => cases value <;> exact hw (by decide) (hb rfl)
  | name word =>
    have hh := hw hk.1 (hb rfl)
    rwa [IsName.ofWord hk] at hh
  | stop => exact hk.elim

lemma utf8ByteSize_of_ascii (h : ∀ c ∈ text.toList, c.utf8Size = 1) :
    text.utf8ByteSize = text.toList.length := by
  have hl : ∀ cs : List Char, (∀ c ∈ cs, c.utf8Size = 1) → String.utf8Len cs = cs.length := by
    intro cs hcs
    induction cs with
    | nil => rfl
    | cons c cs ih =>
      obtain ⟨hc, hcs⟩ := List.forall_mem_cons.mp hcs
      rw [String.utf8Len_cons, ih hcs, hc, List.length_cons]
  rw [← String.ofList_toList (s := text), String.utf8ByteSize_ofList, hl _ h, String.ofList_toList]

lemma utf8Size_of_isBlank (h : isBlank c = true) : c.utf8Size = 1 := by
  simp only [isBlank, Bool.or_eq_true, decide_eq_true_eq] at h
  rcases h with (((rfl | rfl) | rfl) | rfl) | rfl <;> rfl

lemma utf8Size_of_isWordChar (h : isWordChar c = true) : c.utf8Size = 1 := by
  simp only [isWordChar, Bool.and_eq_true, decide_eq_true_eq] at h
  have hc : c.val ≤ '~'.val := h.1.1.2
  have ht : '~'.val ≤ 127 := by decide
  exact Char.utf8Size_eq_one_iff.mpr (UInt32.le_trans hc ht)

lemma Kind.Written.ascii (hk : k.Written) : ∀ c ∈ k.text.toList, c.utf8Size = 1 := by
  have hw : ∀ {word}, IsWord word → ∀ c ∈ word.toList, c.utf8Size = 1 :=
    fun hw c hc => utf8Size_of_isWordChar (hw.2 c hc)
  cases k with
  | operator op => cases op <;> exact hw (by decide)
  | openParen => exact fun c hc => List.mem_singleton.mp hc ▸ rfl
  | closeParen => exact fun c hc => List.mem_singleton.mp hc ▸ rfl
  | constant value => cases value <;> exact hw (by decide)
  | name word => exact hw hk.1
  | stop => exact hk.elim

lemma IsGap.ascii (h : IsGap text) : ∀ c ∈ text.toList, c.utf8Size = 1 :=
  fun c hc => utf8Size_of_isBlank (h c hc)

end Token

namespace Lexer

variable {l m : Lexer}

lemma position_advance {n : Nat} (hn : n ≤ l.rest.length) :
    (l.advance n).position + (l.advance n).rest.length = l.position + l.rest.length := by
  simp only [advance, List.length_drop]
  omega

lemma position_here {r : Except LexError Token} (h : l.here = (r, m)) :
    m.position + m.rest.length = l.position + l.rest.length := by
  rw [here] at h
  split at h
  · cases h
    rfl
  · rename_i c cs hc
    have hl : 1 ≤ l.rest.length := by simp [hc]
    split at h
    · cases h
      exact position_advance hl
    · split at h
      · cases h
        exact position_advance hl
      · split at h
        · cases h
          exact position_advance (List.takeWhile_sublist _).length_le
        · cases h
          rfl

lemma skipBlanks_gap {gap : String} {more : List Char} (hg : IsGap gap)
    (hm : more.dropWhile isBlank = more) (hl : l.rest = gap.toList ++ more) :
    l.skipBlanks.rest = more ∧ l.skipBlanks.position = l.position + gap.utf8ByteSize := by
  have hr : l.skipBlanks.rest = more := by
    rw [rest_skipBlanks, hl, List.dropWhile_append_of_pos hg, hm]
  have hp : l.skipBlanks.position + l.skipBlanks.rest.length = l.position + l.rest.length :=
    position_advance (List.takeWhile_sublist _).length_le
  rw [hr, hl, List.length_append, ← utf8ByteSize_of_ascii hg.ascii] at hp
  exact ⟨hr, by omega⟩

end Lexer

namespace Layout

variable {gap tail : String} {k : Kind} {pieces : List (String × Kind)}

lemma breaks_write (hk : k.isWord = true) (hg : ∀ piece ∈ pieces, IsGap piece.1) (ht : IsGap tail)
    (hw : ∀ piece ∈ pieces, piece.2.Written)
    (ha : ((gap, k) :: pieces).IsChain fun a b => a.2.isWord = true → b.2.isWord = true → b.1 ≠ "") :
    Breaks (write tail pieces).toList := by
  have hnil : Breaks [] := by simp [Breaks]
  cases pieces with
  | nil => simpa [write] using ht.breaks hnil
  | cons piece pieces =>
    obtain ⟨gap', k'⟩ := piece
    have hg' : IsGap gap' := hg _ List.mem_cons_self
    have hk' : k'.Written := hw _ List.mem_cons_self
    have ha' := (List.isChain_cons_cons.mp ha).1 hk
    rw [write, String.toList_append, String.toList_append, List.append_assoc]
    by_cases hw' : k'.isWord = true
    · obtain ⟨c, cs, hc⟩ := List.exists_cons_of_ne_nil (l := gap'.toList) (by simpa using ha' hw')
      rw [hc]
      exact fun d hd => isWordChar_eq_false_of_isBlank (hg' d (by simp_all))
    · refine hg'.breaks ?_
      cases k' with
      | openParen => simp [Breaks, Kind.text, isWordChar]
      | closeParen => simp [Breaks, Kind.text, isWordChar]
      | stop => exact hk'.elim
      | _ => exact absurd rfl hw'

lemma tokens_write (hg : ∀ piece ∈ pieces, IsGap piece.1) (ht : IsGap tail)
    (hw : ∀ piece ∈ pieces, piece.2.Written)
    (ha : pieces.IsChain fun a b => a.2.isWord = true → b.2.isWord = true → b.1 ≠ "")
    {l : Lexer} (hl : l.rest = (write tail pieces).toList) :
    l.tokens = .ok (place tail l.position pieces) := by
  induction pieces generalizing l with
  | nil =>
    have hl' : l.rest = tail.toList ++ [] := by simpa [write] using hl
    obtain ⟨hr, hp⟩ := Lexer.skipBlanks_gap ht rfl hl'
    have hn : l.next = (.ok ⟨.stop, l.skipBlanks.position⟩, l.skipBlanks) := by
      simp [Lexer.next, Lexer.here, hr]
    rw [Lexer.tokens_of_last hn rfl, hp]
    rfl
  | cons piece pieces ih =>
    obtain ⟨gap, k⟩ := piece
    obtain ⟨hg', hgs⟩ : IsGap gap ∧ ∀ piece ∈ pieces, IsGap piece.1 := List.forall_mem_cons.mp hg
    obtain ⟨hk, hks⟩ : k.Written ∧ ∀ piece ∈ pieces, piece.2.Written := List.forall_mem_cons.mp hw
    have hh : Heads (k.text.toList ++ (write tail pieces).toList) k (write tail pieces).toList :=
      heads_text hk fun hword => breaks_write hword hgs ht hks ha
    have hl' : l.rest = gap.toList ++ (k.text.toList ++ (write tail pieces).toList) := by
      rw [hl, write, String.toList_append, String.toList_append, List.append_assoc]
    obtain ⟨hr, hp⟩ := Lexer.skipBlanks_gap hg' hh.dropWhile_isBlank hl'
    rw [← hr] at hh
    obtain ⟨m, hm, hrest⟩ := Lexer.here_of_heads hh
    have hpos := Lexer.position_here hm
    rw [hrest, hr, List.length_append, ← utf8ByteSize_of_ascii hk.ascii, hp] at hpos
    have hmp : m.position = l.position + gap.utf8ByteSize + k.text.utf8ByteSize := by omega
    rw [Lexer.tokens_of_next hm hh.ne_stop, ih hgs hks ha.tail hrest, hmp, hp]
    rfl

lemma map_kind_place (offset : Nat) :
    (place tail offset pieces).map Token.kind = pieces.map Prod.snd ++ [.stop] := by
  induction pieces generalizing offset with
  | nil => rfl
  | cons piece pieces ih => exact congrArg (piece.2 :: ·) (ih _)

lemma tokenize_text (l : Layout) : tokenize l.text = .ok l.tokens :=
  tokens_write l.gap l.tailGap l.written l.apart rfl

def offset (l : Layout) (i : Nat) : Nat :=
  (l.tokens.map Token.position).getD i 0

lemma stop_notMem_kinds (l : Layout) : .stop ∉ l.kinds := by
  intro hs
  obtain ⟨⟨gap, k⟩, hm, hk⟩ := List.mem_map.mp hs
  have hw := l.written _ hm
  rw [show (gap, k).2 = .stop from hk] at hw
  exact hw

lemma map_kind_tokens (l : Layout) : l.tokens.map Token.kind = l.kinds ++ [.stop] :=
  map_kind_place 0

lemma parse_text (l : Layout) : Expr.parse l.text =
    (Parse.ofTokens (Parse.numbered (l.kinds ++ [.stop]))).mapError (ParseError.relocate l.offset) := by
  have hn := Parse.relocate_numbered l.tokens
  rw [map_kind_tokens] at hn
  rw [← Parse.ofTokens_relocate (Parse.ended_numbered l.stop_notMem_kinds), Expr.parse, tokenize_text]
  exact congrArg Parse.ofTokens hn.symm

theorem parse_layout (l : Layout) :
    tokenize l.text = .ok l.tokens ∧ l.tokens.map Token.kind = l.kinds ++ [.stop] ∧
    ∀ m : Layout, m.kinds = l.kinds → ∃ verdict : Except ParseError Expr,
      Expr.parse l.text = verdict.mapError (ParseError.relocate l.offset) ∧
      Expr.parse m.text = verdict.mapError (ParseError.relocate m.offset) ∧
      ∀ err i, verdict = .error err → err.position? = some i → i ≤ l.kinds.length := by
  refine ⟨l.tokenize_text, l.map_kind_tokens, fun m hm => ⟨_, l.parse_text, ?_, ?_⟩⟩
  · rw [m.parse_text, hm]
  · exact fun err i he hi => Parse.position_le_of_numbered l.stop_notMem_kinds he hi

theorem parse_layout_unclosed_group : ∃ l m : Layout,
    l.text = "A OR(B C" ∧ m.text = "\tA  OR ( B\n\nC " ∧ m.kinds = l.kinds ∧
    tokenize l.text = .ok [⟨.name "A", 0⟩, ⟨.operator .or, 2⟩, ⟨.openParen, 4⟩, ⟨.name "B", 5⟩,
      ⟨.name "C", 7⟩, ⟨.stop, 8⟩] ∧
    ∃ verdict : Except ParseError Expr,
      Expr.parse l.text = verdict.mapError (ParseError.relocate l.offset) ∧
      Expr.parse m.text = verdict.mapError (ParseError.relocate m.offset) := by
  let l : Layout := {
    pieces := [("", .name "A"), (" ", .operator .or), ("", .openParen), ("", .name "B"), (" ", .name "C")]
    tail := ""
    gap := by decide
    tailGap := by decide
    written := by decide
    apart := by decide }
  let m : Layout := {
    pieces := [("\t", .name "A"), ("  ", .operator .or), (" ", .openParen), (" ", .name "B"),
      ("\n\n", .name "C")]
    tail := " "
    gap := by decide
    tailGap := by decide
    written := by decide
    apart := by decide }
  obtain ⟨ht, -, hp⟩ := parse_layout l
  obtain ⟨verdict, hl, hm, -⟩ := hp m rfl
  exact ⟨l, m, rfl, rfl, rfl, ht.trans rfl, verdict, hl, hm⟩

end Layout

end TriggerLogic
