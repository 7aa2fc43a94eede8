import Mathlib.Tactic.Lemma
import TriggerLogic.Expr.Parse

namespace TriggerLogic.Grammar

open Token

inductive Symbol where
  | disjunction
  | conjunction
  | unary
  | primary
deriving DecidableEq, Repr

inductive Derives : Symbol → List Kind → Expr → Prop
  | conjunction {ks e} : Derives .conjunction ks e → Derives .disjunction ks e
  | or {ks ks' l r} : Derives .disjunction ks l → Derives .conjunction ks' r →
      Derives .disjunction (ks ++ .operator .or :: ks') (.or l r)
  | unary {ks e} : Derives .unary ks e → Derives .conjunction ks e
  | and {ks ks' l r} : Derives .conjunction ks l → Derives .unary ks' r →
      Derives .conjunction (ks ++ .operator .and :: ks') (.and l r)
  | not {ks e} : Derives .unary ks e → Derives .unary (.operator .not :: ks) (.not e)
  | primary {ks e} : Derives .primary ks e → Derives .unary ks e
  | constant (b : Bool) : Derives .primary [.constant b] (.constant b)
  | name (n : String) : Derives .primary [.name n] (.leaf (.ofName n))
  | group {ks e} : Derives .disjunction ks e →
      Derives .primary (.openParen :: (ks ++ [.closeParen])) e

def starts : Kind → Bool
  | .operator op => !op.isBinary
  | .closeParen | .stop => false
  | _ => true

def names : List Kind → List String
  | [] => []
  | .name n :: ks => n :: names ks
  | _ :: ks => names ks

variable {s : Symbol} {ks : List Kind} {e : Expr}

lemma Derives.starts (h : Derives s ks e) : ∃ k ks', ks = k :: ks' ∧ Grammar.starts k = true := by
  induction h with
  | conjunction _ ih => exact ih
  | unary _ ih => exact ih
  | primary _ ih => exact ih
  | or _ _ ih _ =>
    obtain ⟨k, ks', rfl, hk⟩ := ih
    exact ⟨k, _, rfl, hk⟩
  | and _ _ ih _ =>
    obtain ⟨k, ks', rfl, hk⟩ := ih
    exact ⟨k, _, rfl, hk⟩
  | not => exact ⟨_, _, rfl, rfl⟩
  | constant => exact ⟨_, _, rfl, rfl⟩
  | name => exact ⟨_, _, rfl, rfl⟩
  | group => exact ⟨_, _, rfl, rfl⟩

lemma Derives.stop_notMem (h : Derives s ks e) : .stop ∉ ks := by
  induction h <;> simp_all

lemma names_append (ks ks' : List Kind) : names (ks ++ ks') = names ks ++ names ks' := by
  induction ks with
  | nil => rfl
  | cons k ks ih => cases k <;> simp [names, ih]

lemma Derives.leaves (h : Derives s ks e) : e.leaves = (names ks).map Leaf.ofName := by
  induction h with
  | conjunction _ ih => exact ih
  | unary _ ih => exact ih
  | primary _ ih => exact ih
  | or _ _ ihl ihr => simp [Expr.leaves, names_append, names, ihl, ihr]
  | and _ _ ihl ihr => simp [Expr.leaves, names_append, names, ihl, ihr]
  | not _ ih => exact ih
  | constant => rfl
  | name => rfl
  | group _ ih => simpa [names_append, names] using ih

@[elab_as_elim]
theorem Derives.token_induction
    {motive : (s : Symbol) → (ts : List Token) → (e : Expr) → Derives s (ts.map Token.kind) e → Prop}
    (conjunction : ∀ ts e h, motive .conjunction ts e h → motive .disjunction ts e (.conjunction h))
    (or : ∀ ts p ts' l r hl hr, motive .disjunction ts l hl → motive .conjunction ts' r hr →
      motive .disjunction (ts ++ ⟨.operator .or, p⟩ :: ts') (.or l r) (by simpa using hl.or hr))
    (unary : ∀ ts e h, motive .unary ts e h → motive .conjunction ts e (.unary h))
    (and : ∀ ts p ts' l r hl hr, motive .conjunction ts l hl → motive .unary ts' r hr →
      motive .conjunction (ts ++ ⟨.operator .and, p⟩ :: ts') (.and l r) (by simpa using hl.and hr))
    (not : ∀ p ts e h, motive .unary ts e h →
      motive .unary (⟨.operator .not, p⟩ :: ts) (.not e) h.not)
    (primary : ∀ ts e h, motive .primary ts e h → motive .unary ts e (.primary h))
    (constant : ∀ b p, motive .primary [⟨.constant b, p⟩] (.constant b) (.constant b))
    (name : ∀ n p, motive .primary [⟨.name n, p⟩] (.leaf (.ofName n)) (.name n))
    (group : ∀ p ts q e h, motive .disjunction ts e h →
      motive .primary (⟨.openParen, p⟩ :: (ts ++ [⟨.closeParen, q⟩])) e (by simpa using h.group))
    {s : Symbol} {ts : List Token} {e : Expr} (h : Derives s (ts.map Token.kind) e) :
    motive s ts e h := by
  suffices key : ∀ {s ks e}, Derives s ks e → ∀ {ts} (_ : ts.map Token.kind = ks)
      (h : Derives s (ts.map Token.kind) e), motive s ts e h from key h rfl h
  intro s ks e hd
  induction hd with
  | conjunction hd ih =>
    rintro ts rfl -
    exact conjunction ts _ hd (ih rfl hd)
  | or hl hr ihl ihr =>
    intro ts hk _
    obtain ⟨tl, rest, rfl, rfl, hrest⟩ := List.map_eq_append_iff.mp hk
    obtain ⟨⟨k, p⟩, tr, rfl, rfl, rfl⟩ := List.map_eq_cons_iff.mp hrest
    exact or tl p tr _ _ hl hr (ihl rfl hl) (ihr rfl hr)
  | unary hd ih =>
    rintro ts rfl -
    exact unary ts _ hd (ih rfl hd)
  | and hl hr ihl ihr =>
    intro ts hk _
    obtain ⟨tl, rest, rfl, rfl, hrest⟩ := List.map_eq_append_iff.mp hk
    obtain ⟨⟨k, p⟩, tr, rfl, rfl, rfl⟩ := List.map_eq_cons_iff.mp hrest
    exact and tl p tr _ _ hl hr (ihl rfl hl) (ihr rfl hr)
  | not hd ih =>
    intro ts hk _
    obtain ⟨⟨k, p⟩, tr, rfl, rfl, rfl⟩ := List.map_eq_cons_iff.mp hk
    exact not p tr _ hd (ih rfl hd)
  | primary hd ih =>
    rintro ts rfl -
    exact primary ts _ hd (ih rfl hd)
  | constant b =>
    intro ts hk _
    obtain ⟨⟨k, p⟩, _, rfl, rfl, hn⟩ := List.map_eq_cons_iff.mp hk
    cases List.map_eq_nil_iff.mp hn
    exact constant b p
  | name n =>
    intro ts hk _
    obtain ⟨⟨k, p⟩, _, rfl, rfl, hn⟩ := List.map_eq_cons_iff.mp hk
    cases List.map_eq_nil_iff.mp hn
    exact name n p
  | group hd ih =>
    intro ts hk _
    obtain ⟨⟨k, p⟩, tr, rfl, rfl, hm⟩ := List.map_eq_cons_iff.mp hk
    obtain ⟨tm, tc, rfl, rfl, hc⟩ := List.map_eq_append_iff.mp hm
    obtain ⟨⟨k, q⟩, _, rfl, rfl, hn⟩ := List.map_eq_cons_iff.mp hc
    cases List.map_eq_nil_iff.mp hn
    exact group p tm q _ hd (ih rfl hd)

end TriggerLogic.Grammar
