import TriggerLogic.Expr.Dump
import TriggerLogic.Proofs.Spelling

namespace TriggerLogic

open Token Grammar

def Binding.shown (b : Binding) : Expr :=
  .leaf (.ofName b.name)

namespace Leaf

variable {l : Leaf}

def placeholder (l : Leaf) : Leaf :=
  { pattern := l.level.placeholder, level := l.level }

def shown (l : Leaf) : Expr :=
  if !l.bound then .leaf l.placeholder
  else match l.bindings with
    | [] => .constant false
    | b :: bs => (bs.map Binding.shown).foldl .or b.shown

def Named (l : Leaf) : Prop :=
  l.bound = true → ∀ b ∈ l.bindings, IsName b.name

lemma spells_placeholder (l : Leaf) : Spells .primary l.level.placeholder (.leaf l.placeholder) := by
  have hp : l.placeholder = .ofName l.level.placeholder := by
    cases hl : l.level <;> simp [placeholder, hl] <;> decide
  rw [hp]
  apply spells_name
  cases l.level <;> decide

lemma spells_dump (h : l.Named) : Spells .primary l.dump l.shown := by
  rw [dump, shown]
  by_cases hb : l.bound = true
  · rw [hb]
    have hn : ∀ b ∈ l.bindings, Spells .primary b.name b.shown := fun b hm => spells_name (h hb b hm)
    cases hbs : l.bindings with
    | nil => exact spells_constant false
    | cons b bs =>
      rw [hbs] at hn
      obtain ⟨hb, hbs⟩ := List.forall_mem_cons.mp hn
      cases bs with
      | nil => exact hb
      | cons b' bs =>
        have hs : ∀ b ∈ b' :: bs, Spells .conjunction b.name b.shown :=
          fun b hm => (hbs b hm).unary.conjunction
        have hg := (hb.unary.conjunction.disjunction.or_foldl_map hs).group
        rwa [List.foldl_map] at hg
  · rw [Bool.eq_false_iff.mpr hb]
    exact l.spells_placeholder

end Leaf

namespace Expr

variable {e : Expr}

/-- The tree that the canonical text of a tree shows. -/
def shown : Expr → Expr
  | constant b => constant b
  | leaf l => l.shown
  | not e => not e.shown
  | and l r => and l.shown r.shown
  | or l r => or l.shown r.shown

lemma spells_dump (h : ∀ l ∈ e.leaves, l.Named) : Spells .primary e.dump e.shown := by
  induction e with
  | constant b => exact spells_constant b
  | leaf l => exact Leaf.spells_dump (h l (by simp [leaves]))
  | not e ih =>
    have hg := (ih h).unary.not.conjunction.disjunction.group
    rwa [← String.append_assoc] at hg
  | and l r ihl ihr =>
    obtain ⟨hl, hr⟩ := List.forall_mem_append.mp h
    have hg := ((ihl hl).unary.conjunction.and (ihr hr).unary).disjunction.group
    simpa [dump, shown, String.append_assoc] using hg
  | or l r ihl ihr =>
    obtain ⟨hl, hr⟩ := List.forall_mem_append.mp h
    have hg := ((ihl hl).unary.conjunction.disjunction.or (ihr hr).unary.conjunction).group
    simpa [dump, shown, String.append_assoc] using hg

lemma shown_of_unbound (h : ∀ l ∈ e.leaves, l.bound = false) :
    e.shown.dump = e.dump ∧ e.shown.leaves.map Leaf.level = e.leaves.map Leaf.level := by
  induction e with
  | constant b => exact ⟨rfl, rfl⟩
  | leaf l =>
    have hb : l.bound = false := h l (by simp [leaves])
    simp [shown, Leaf.shown, dump, Leaf.dump, leaves, Leaf.placeholder, hb]
  | not e ih =>
    obtain ⟨hd, hl⟩ := ih h
    exact ⟨by rw [shown, dump, dump, hd], hl⟩
  | and l r ihl ihr | or l r ihl ihr =>
    obtain ⟨hl, hr⟩ := List.forall_mem_append.mp h
    simp [shown, dump, leaves, ihl hl, ihr hr]

theorem parse_dump (h : ∀ l ∈ e.leaves, l.Named) :
    Expr.parse e.dump = .ok e.shown ∧
    ((∀ l ∈ e.leaves, l.bound = false) → ∃ r, Expr.parse e.dump = .ok r ∧ r.dump = e.dump ∧
      r.leaves.map Leaf.level = e.leaves.map Leaf.level) := by
  have hp : Expr.parse e.dump = .ok e.shown :=
    parse_of_spells (spells_dump h).unary.conjunction.disjunction
  exact ⟨hp, fun hu => ⟨_, hp, shown_of_unbound hu⟩⟩

theorem parse_dump_partly_bound :
    (∀ l ∈ (Expr.and (.not (.leaf ⟨"*", .path, [⟨"A", 1⟩, ⟨"L1_B", 0⟩], true⟩))
      (.or (.leaf ⟨"X", .seed, [⟨"(", 2⟩], false⟩) (.leaf ⟨"Y", .path, [], true⟩))).leaves, l.Named) ∧
    Expr.parse "((NOT (A OR L1_B)) AND (Uninitialised_L1_Expression OR FALSE))" =
      .ok (.and (.not (.or (.leaf ⟨"A", .path, [], false⟩) (.leaf ⟨"L1_B", .seed, [], false⟩)))
        (.or (.leaf ⟨"Uninitialised_L1_Expression", .seed, [], false⟩) (.constant false))) := by
  have h : ∀ l ∈ (Expr.and (.not (.leaf ⟨"*", .path, [⟨"A", 1⟩, ⟨"L1_B", 0⟩], true⟩))
      (.or (.leaf ⟨"X", .seed, [⟨"(", 2⟩], false⟩) (.leaf ⟨"Y", .path, [], true⟩))).leaves, l.Named := by
    simp only [leaves, List.cons_append, List.nil_append, List.forall_mem_cons, Leaf.Named]
    decide
  exact ⟨h, (parse_dump h).1⟩

end Expr

end TriggerLogic
