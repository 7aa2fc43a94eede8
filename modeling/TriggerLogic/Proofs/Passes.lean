import TriggerLogic.Proofs.Binding

namespace TriggerLogic

variable {ctx : Context} {notices : List Notice}

namespace Leaf

def rebind [RegexLibrary] (ctx : Context) (l : Leaf) : Leaf :=
  (l.reset.settle ctx).1

end Leaf

namespace Expr

variable [RegexLibrary] {e : Expr}

lemma settle_of_ok (h : (e.settle ctx).2 = .ok notices) :
    (e.settle ctx).1 = e.mapLeaves fun l => (l.settle ctx).1 := by
  induction e generalizing notices with
  | constant b => rfl
  | leaf l => rfl
  | not e ih => exact congrArg not (ih h)
  | and l r ihl ihr | or l r ihl ihr =>
    rcases hl : l.settle ctx with ⟨l', _ | ns⟩
    · simp [settle, hl] at h
    · rcases hr : r.settle ctx with ⟨r', _ | ns'⟩
      · simp [settle, hl, hr, Except.map] at h
      · rw [hl] at ihl
        rw [hr] at ihr
        simp only [settle, hl, hr, mapLeaves]
        rw [← ihl rfl, ← ihr rfl]

lemma rebind_of_ok (h : (e.rebind ctx).2 = .ok notices) :
    (e.rebind ctx).1 = e.mapLeaves (Leaf.rebind ctx) := by
  rw [rebind, settle_of_ok h, mapLeaves_mapLeaves]
  rfl

lemma rebind_outcome : (e.rebind ctx).2 = (Leaf.settleAll ctx (e.leaves.map Leaf.reset)).2 := by
  rw [← leaves_mapLeaves, ← settle_leaves_outcome]
  rfl

end Expr

namespace Condition

variable {c : Condition} {cs ds : List Condition}

def mapLeaves (f : Leaf → Leaf) (c : Condition) : Condition :=
  { c with root := c.root.mapLeaves f }

def leaves (cs : List Condition) : List Leaf :=
  cs.flatMap fun c => c.root.leaves

lemma leaves_map_mapLeaves (f : Leaf → Leaf) : leaves (cs.map (mapLeaves f)) = (leaves cs).map f := by
  simp only [leaves, List.flatMap_map, List.map_flatMap]
  exact congrArg (cs.flatMap ·) (funext fun c => Expr.leaves_mapLeaves f)

lemma mapLeaves_mapLeaves (f g : Leaf → Leaf) : (c.mapLeaves g).mapLeaves f = c.mapLeaves (f ∘ g) :=
  congrArg (fun root => { c with root }) (Expr.mapLeaves_mapLeaves f g)

variable [RegexLibrary]

lemma BoundTo.isBound (h : BoundTo ctx cs) : ∀ c ∈ cs, c.root.isBound = true :=
  fun c hc => List.all_eq_true.mpr fun l hl => (h c hc l hl).1

lemma rebindAll_reset :
    (rebindAll ctx cs).1.map (mapLeaves Leaf.reset) = cs.map (mapLeaves Leaf.reset) := by
  have hr : ∀ c : Condition, (c.rebind ctx).1.mapLeaves Leaf.reset = c.mapLeaves Leaf.reset :=
    fun c => congrArg (fun root => { c with root }) Expr.rebind_reset
  induction cs with
  | nil => rfl
  | cons c cs ih =>
    rcases hc : c.rebind ctx with ⟨c', _ | ns⟩
    · simp [rebindAll, hc, ← hr c]
    · simp [rebindAll, hc, ← hr c, ih]

lemma rebindAll_of_ok (h : (rebindAll ctx cs).2 = .ok notices) :
    (rebindAll ctx cs).1 = cs.map (mapLeaves (Leaf.rebind ctx)) := by
  induction cs generalizing notices with
  | nil => rfl
  | cons c cs ih =>
    rcases hc : c.rebind ctx with ⟨c', _ | ns⟩
    · simp [rebindAll, hc] at h
    · rcases hs : rebindAll ctx cs with ⟨cs', _ | ns'⟩
      · simp [rebindAll, hc, hs, Except.map] at h
      · have hr : (c.root.rebind ctx).2 = .ok ns := congrArg Prod.snd hc
        have hc' : (c.rebind ctx).1 = c.mapLeaves (Leaf.rebind ctx) :=
          congrArg (fun root => { c with root }) (Expr.rebind_of_ok hr)
        rw [hs] at ih
        rw [hc] at hc'
        simp only [rebindAll, hc, hs, List.map_cons]
        rw [← ih rfl, ← hc']

lemma rebindAll_outcome :
    (rebindAll ctx cs).2 = (Leaf.settleAll ctx ((leaves cs).map Leaf.reset)).2 := by
  induction cs with
  | nil => rfl
  | cons c cs ih =>
    have hr : (c.rebind ctx).2 = (Leaf.settleAll ctx (c.root.leaves.map Leaf.reset)).2 := Expr.rebind_outcome
    rw [leaves, List.flatMap_cons, List.map_append, Leaf.settleAll_append, ← leaves]
    rcases hc : c.rebind ctx with ⟨c', _ | ns⟩ <;>
      rcases hl : Leaf.settleAll ctx (c.root.leaves.map Leaf.reset) with ⟨ls, _ | ns'⟩ <;>
      simp_all [rebindAll]

lemma rebindAll_congr (ctx : Context) (h : cs.map (mapLeaves Leaf.reset) = ds.map (mapLeaves Leaf.reset)) :
    (rebindAll ctx cs).2 = (rebindAll ctx ds).2 ∧
      ∀ ns, (rebindAll ctx cs).2 = .ok ns → (rebindAll ctx cs).1 = (rebindAll ctx ds).1 := by
  have ho : (rebindAll ctx cs).2 = (rebindAll ctx ds).2 := by
    rw [rebindAll_outcome, rebindAll_outcome, ← leaves_map_mapLeaves, ← leaves_map_mapLeaves, h]
  refine ⟨ho, fun ns hok => ?_⟩
  have hb : ∀ cs : List Condition,
      cs.map (mapLeaves (Leaf.rebind ctx)) = (cs.map (mapLeaves Leaf.reset)).map (mapLeaves (Leaf.rebind ctx)) := by
    intro cs
    rw [List.map_map]
    exact List.map_congr_left fun c _ => (mapLeaves_mapLeaves (Leaf.rebind ctx) Leaf.reset).symm
  rw [rebindAll_of_ok hok, rebindAll_of_ok (ho ▸ hok), hb cs, hb ds, h]

end Condition

end TriggerLogic
