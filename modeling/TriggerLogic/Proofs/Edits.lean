import TriggerLogic.Proofs.Passes

namespace TriggerLogic

namespace Expr

inductive Edit where
  | rebind (ctx : Context)
  | bind (n : Nat) (bindings : List Binding)
  | reset (n : Nat)

variable {e : Expr}

lemma mapLeaves_modifyLeaf {f g : Leaf → Leaf} (h : ∀ l, f (g l) = f l) (n : Nat) :
    (e.modifyLeaf g n).mapLeaves f = e.mapLeaves f := by
  induction e generalizing n with
  | constant b => rfl
  | leaf l =>
    by_cases hn : n = 0
    · simp [modifyLeaf, mapLeaves, hn, h]
    · simp [modifyLeaf, hn]
  | not e ih => exact congrArg not (ih n)
  | and l r ihl ihr | or l r ihl ihr =>
    by_cases hn : n < l.leaves.length
    · simp [modifyLeaf, mapLeaves, hn, ihl]
    · simp [modifyLeaf, mapLeaves, hn, ihr]

variable [RegexLibrary]

def Edit.apply (e : Expr) : Edit → Expr
  | rebind ctx => (e.rebind ctx).1
  | bind n bindings => e.modifyLeaf (Leaf.bind bindings) n
  | reset n => e.modifyLeaf Leaf.reset n

def edited (e : Expr) (past : List Edit) : Expr :=
  past.foldl Edit.apply e

lemma Edit.apply_reset (edit : Edit) : (edit.apply e).mapLeaves Leaf.reset = e.mapLeaves Leaf.reset := by
  cases edit with
  | rebind ctx => exact rebind_reset
  | bind n bindings =>
    have hb : ∀ l : Leaf, (l.bind bindings).reset = l.reset := fun _ => rfl
    exact mapLeaves_modifyLeaf hb n
  | reset n =>
    have hr : ∀ l : Leaf, l.reset.reset = l.reset := fun _ => rfl
    exact mapLeaves_modifyLeaf hr n

lemma edited_reset (past : List Edit) : (e.edited past).mapLeaves Leaf.reset = e.mapLeaves Leaf.reset := by
  induction past generalizing e with
  | nil => rfl
  | cons edit past ih =>
    have hs : (edit.apply e).mapLeaves Leaf.reset = e.mapLeaves Leaf.reset := edit.apply_reset
    exact ih.trans hs

lemma rebind_congr {e' : Expr} (h : e.mapLeaves Leaf.reset = e'.mapLeaves Leaf.reset) (ctx : Context) :
    e.rebind ctx = e'.rebind ctx := by
  rw [rebind, rebind, h]

theorem rebind_edited (e : Expr) (past : List Edit) (ctx : Context) :
    (e.edited past).mapLeaves Leaf.reset = e.mapLeaves Leaf.reset ∧
    (e.edited past).rebind ctx = (e.mapLeaves Leaf.reset).rebind ctx ∧
    ((e.edited past).rebind ctx).1.rebind ctx = (e.edited past).rebind ctx := by
  have hp : (e.edited past).mapLeaves Leaf.reset = e.mapLeaves Leaf.reset := edited_reset past
  have hc : e.mapLeaves Leaf.reset = (e.mapLeaves Leaf.reset).mapLeaves Leaf.reset := by
    rw [mapLeaves_mapLeaves]
    rfl
  refine ⟨hp, ?_, ?_⟩
  · exact rebind_congr (hp.trans hc) ctx
  · exact rebind_congr rebind_reset ctx

end Expr

end TriggerLogic
