import TriggerLogic.Proofs.Display

/-! A leaf of three or more names is printed without the parentheses that its names get when they
are read again as leaves of their own, so its text grows, once. -/

namespace TriggerLogic

namespace Leaf

variable {ctx : Context} {l : Leaf}

def single (level : Level) (b : Binding) : Leaf where
  pattern := b.name
  level := level
  bindings := [b]
  bound := true

def split (l : Leaf) : Expr :=
  match l.bindings with
  | [] => .constant false
  | b :: bs => (bs.map fun b => .leaf (single l.level b)).foldl .or (.leaf (single l.level b))

end Leaf

namespace Expr

variable {ctx : Context} {e : Expr} {es : List Expr}

def split : Expr → Expr
  | constant b => constant b
  | leaf l => l.split
  | not e => not e.split
  | and l r => and l.split r.split
  | or l r => or l.split r.split

lemma split_foldl_or : (es.foldl .or e).split = (es.map split).foldl .or e.split :=
  map_foldl_or fun _ _ => rfl

end Expr

namespace Leaf

variable {ctx : Context} {l : Leaf}

lemma split_split : l.split.split = l.split := by
  rw [split]
  cases l.bindings with
  | nil => rfl
  | cons b bs =>
    rw [Expr.split_foldl_or, List.map_map]
    rfl

lemma Restores.mapLeaves_shown [RegexLibrary] (h : l.Restores ctx) : l.shown.mapLeaves (Leaf.rebind ctx) = l.split := by
  have hs : ∀ b ∈ l.bindings, b.shown.mapLeaves (Leaf.rebind ctx) = .leaf (single l.level b) := by
    intro b hm
    obtain ⟨hp, hi⟩ := h.2 b hm
    exact congrArg (fun p => Expr.leaf p.1) (settle_ofName hp hi)
  rw [shown, h.1, split]
  cases hb : l.bindings with
  | nil => rfl
  | cons b bs =>
    rw [hb] at hs
    obtain ⟨hb, hbs⟩ := List.forall_mem_cons.mp hs
    simp only [Bool.not_true, Bool.false_eq_true, if_false]
    rw [Expr.mapLeaves_foldl_or, hb, List.map_map]
    congr 1
    exact List.map_congr_left hbs

lemma leaves_split : l.split.leaves = l.bindings.map (single l.level) := by
  rw [split]
  cases l.bindings with
  | nil => rfl
  | cons b bs => simp [Expr.leaves_foldl_or, Expr.leaves, List.flatMap_map, ← List.map_eq_flatMap]

lemma length_dump_foldl_single (level : Level) (bs : List Binding) {e : Expr} {text : String} {n : Nat}
    (h : e.dump.length = text.length + n) :
    ((bs.map fun b => Expr.leaf (single level b)).foldl .or e).dump.length =
      (bs.foldl (fun text b => text ++ " OR " ++ b.name) text).length + n + 2 * bs.length := by
  induction bs generalizing e text n with
  | nil => exact h
  | cons b bs ih =>
    have hp : "(".length = 1 := rfl
    have hq : ")".length = 1 := rfl
    have hs : (single level b).dump = b.name := rfl
    have hd : (Expr.or e (.leaf (single level b))).dump.length = (text ++ " OR " ++ b.name).length + (n + 2) := by
      simp only [Expr.dump, String.length_append, hp, hq, hs, h]
      omega
    rw [List.map_cons, List.foldl_cons, List.foldl_cons, ih hd, List.length_cons]
    omega

lemma length_dump_split (hb : l.bound = true) :
    l.split.dump.length = l.dump.length + 2 * (l.bindings.drop 2).length := by
  rw [split, dump, hb]
  cases l.bindings with
  | nil => rfl
  | cons b bs =>
    cases bs with
    | nil => rfl
    | cons b' bs =>
      have hp : "(".length = 1 := rfl
      have hq : ")".length = 1 := rfl
      have hd : (Expr.leaf (single l.level b)).dump.length = b.name.length + 0 := rfl
      rw [length_dump_foldl_single l.level (b' :: bs) hd]
      simp only [Bool.not_true, Bool.false_eq_true, if_false, String.length_append, hp, hq, List.length_cons,
        List.drop_succ_cons, List.drop_zero]
      omega

lemma dump_split (hb : l.bound = true) (hl : l.bindings.length < 3) : l.split.dump = l.dump := by
  rw [split, dump, hb]
  rcases hbs : l.bindings with _ | ⟨b, _ | ⟨b', _ | ⟨b'', bs⟩⟩⟩
  · rfl
  · rfl
  · simp [Expr.dump, dump, single, String.append_assoc]
  · simp only [hbs, List.length_cons] at hl
    omega

end Leaf

namespace Expr

variable {ctx : Context} {e : Expr}

lemma split_split : e.split.split = e.split := by
  induction e with
  | constant b => rfl
  | leaf l => exact Leaf.split_split
  | not e ih => exact congrArg not ih
  | and l r ihl ihr | or l r ihl ihr => rw [split, split, ihl, ihr]

lemma leaves_split : e.split.leaves = e.leaves.flatMap fun l => l.bindings.map (Leaf.single l.level) := by
  induction e with
  | constant b => rfl
  | leaf l => simp [split, leaves, Leaf.leaves_split]
  | not e ih => exact ih
  | and l r ihl ihr | or l r ihl ihr => simp [split, leaves, ihl, ihr]

lemma restores_split (h : ∀ l ∈ e.leaves, l.Restores ctx) : ∀ l ∈ e.split.leaves, l.Restores ctx := by
  intro m hm
  rw [leaves_split] at hm
  obtain ⟨l, hl, hm⟩ := List.mem_flatMap.mp hm
  obtain ⟨b, hb, rfl⟩ := List.mem_map.mp hm
  refine ⟨rfl, fun b' hb' => ?_⟩
  obtain rfl := List.mem_singleton.mp hb'
  exact (h l hl).2 b' hb

lemma length_dump_split (hb : ∀ l ∈ e.leaves, l.bound = true) :
    e.split.dump.length = e.dump.length + 2 * (e.leaves.flatMap fun l => l.bindings.drop 2).length := by
  induction e with
  | constant b => rfl
  | leaf l => simp [split, dump, leaves, Leaf.length_dump_split (hb l (by simp [leaves]))]
  | not e ih =>
    simp only [split, dump, leaves, String.length_append, ih hb]
    omega
  | and l r ihl ihr | or l r ihl ihr =>
    obtain ⟨hl, hr⟩ := List.forall_mem_append.mp hb
    simp only [split, dump, leaves, String.length_append, ihl hl, ihr hr, List.flatMap_append, List.length_append]
    omega

lemma dump_split (hb : ∀ l ∈ e.leaves, l.bound = true) (hl : ∀ l ∈ e.leaves, l.bindings.length < 3) :
    e.split.dump = e.dump := by
  induction e with
  | constant b => rfl
  | leaf l => exact Leaf.dump_split (hb l (by simp [leaves])) (hl l (by simp [leaves]))
  | not e ih => rw [split, dump, dump, ih hb hl]
  | and l r ihl ihr | or l r ihl ihr =>
    obtain ⟨hbl, hbr⟩ := List.forall_mem_append.mp hb
    obtain ⟨hll, hlr⟩ := List.forall_mem_append.mp hl
    rw [split, dump, dump, ihl hbl hll, ihr hbr hlr]

lemma dump_split_eq_iff (hb : ∀ l ∈ e.leaves, l.bound = true) :
    e.split.dump = e.dump ↔ ∀ l ∈ e.leaves, l.bindings.length < 3 := by
  constructor
  · intro h l hl
    have hz : (e.leaves.flatMap fun l => l.bindings.drop 2).length = 0 := by
      have hd := length_dump_split hb
      rw [h] at hd
      omega
    have hn : l.bindings.drop 2 = [] := List.flatMap_eq_nil_iff.mp (List.length_eq_zero_iff.mp hz) l hl
    have hl2 : l.bindings.length ≤ 2 := List.drop_eq_nil_iff.mp hn
    omega
  · exact dump_split hb

section

variable [RegexLibrary]

lemma mapLeaves_shown (h : ∀ l ∈ e.leaves, l.Restores ctx) : e.shown.mapLeaves (Leaf.rebind ctx) = e.split := by
  induction e with
  | constant b => rfl
  | leaf l => exact (h l (by simp [leaves])).mapLeaves_shown
  | not e ih => exact congrArg not (ih h)
  | and l r ihl ihr | or l r ihl ihr =>
    obtain ⟨hl, hr⟩ := List.forall_mem_append.mp h
    rw [shown, mapLeaves, ihl hl, ihr hr, split]

/-- Reads a text and binds it to the names of the context; the canonical text of the outcome. -/
def recast (ctx : Context) (text : String) : Option String :=
  match Expr.parse text with
  | .error _ => none
  | .ok e =>
    match e.rebind ctx with
    | (e', .ok _) => some e'.dump
    | (_, .error _) => none

lemma recast_dump (h : ∀ l ∈ e.leaves, l.Restores ctx) : recast ctx e.dump = some e.split.dump := by
  have hp : Expr.parse e.dump = .ok e.shown :=
    Grammar.parse_of_spells (spells_dump fun l hl => (h l hl).named).unary.conjunction.disjunction
  have ho : (e.shown.rebind ctx).2 = .ok [] := rebind_shown_outcome h
  have hr : e.shown.rebind ctx = (e.split, .ok []) := by
    refine Prod.ext ?_ ho
    rw [rebind_of_ok ho, mapLeaves_shown h]
  rw [recast, hp]
  simp only [hr]

theorem recast_dump_eq_iff {policy : Policy} {ops : List Table.Op} {notices : List Notice}
    (hp : (Table.run policy ops).Plain) (hb : (e.rebind (Table.run policy ops).context).2 = .ok notices) :
    ∃ text, (∀ ctx, (Table.run policy ops).context.SameNames ctx →
        recast ctx (e.rebind (Table.run policy ops).context).1.dump = some text) ∧
      (text = (e.rebind (Table.run policy ops).context).1.dump ↔
        ∀ l ∈ (e.rebind (Table.run policy ops).context).1.leaves, l.bindings.length < 3) ∧
      ∀ ctxs : List Context, (∀ ctx ∈ ctxs, (Table.run policy ops).context.SameNames ctx) →
        ctxs.foldlM (fun text ctx => recast ctx text) text = some text := by
  have hbound : (e.rebind (Table.run policy ops).context).1.BoundTo (Table.run policy ops).context :=
    rebind_boundTo hb
  generalize (e.rebind (Table.run policy ops).context).1 = bound at hbound
  have hr : ∀ ctx, (Table.run policy ops).context.SameNames ctx → ∀ l ∈ bound.leaves, l.Restores ctx :=
    fun ctx hs l hl => ((hbound l hl).restores (Table.run_consistent policy ops) hp).sameNames hs
  refine ⟨bound.split.dump, fun ctx hs => recast_dump (hr ctx hs), ?_, ?_⟩
  · exact dump_split_eq_iff fun l hl => (hbound l hl).1
  · intro ctxs hs
    induction ctxs with
    | nil => rfl
    | cons ctx ctxs ih =>
      obtain ⟨hc, hcs⟩ := List.forall_mem_cons.mp hs
      have hd : recast ctx bound.split.dump = some bound.split.dump := by
        rw [recast_dump (restores_split (hr ctx hc)), split_split]
      rw [List.foldlM_cons, hd]
      exact ih hcs

end

theorem recast_dump_eq_iff_three_names :
    (Table.run .strict [.setNames .path ["A1", "A2", "B", "A3"], .setNames .seed ["L1_X", "L1_Y"]]).Plain ∧
    ∃ e, Expr.parse "A* OR NOT L1_?" = .ok e ∧
      (e.rebind (Table.run .strict
        [.setNames .path ["A1", "A2", "B", "A3"], .setNames .seed ["L1_X", "L1_Y"]]).context).2 = .ok [] ∧
      (e.rebind (Table.run .strict
        [.setNames .path ["A1", "A2", "B", "A3"], .setNames .seed ["L1_X", "L1_Y"]]).context).1.dump =
          "((A1 OR A2 OR A3) OR (NOT (L1_X OR L1_Y)))" ∧
      ∃ text, recast (Table.run .strict
        [.setNames .path ["A1", "A2", "B", "A3"], .setNames .seed ["L1_X", "L1_Y"]]).context
          "((A1 OR A2 OR A3) OR (NOT (L1_X OR L1_Y)))" = some text ∧
        text ≠ "((A1 OR A2 OR A3) OR (NOT (L1_X OR L1_Y)))" ∧
        recast (Table.run .strict
          [.setNames .path ["A1", "A2", "B", "A3"], .setNames .seed ["L1_X", "L1_Y"]]).context text = some text := by
  have hp : (Table.run .strict
      [.setNames .path ["A1", "A2", "B", "A3"], .setNames .seed ["L1_X", "L1_Y"]]).Plain := by
    intro level
    cases level with
    | path => decide
    | seed => decide
  have he : Expr.parse ("A*" ++ " OR " ++ ("NOT " ++ "L1_?")) =
      .ok (.or (.leaf (.ofName "A*")) (.not (.leaf (.ofName "L1_?")))) := by
    have hl : Grammar.Spells .primary "A*" (.leaf (.ofName "A*")) := Grammar.spells_name (by decide)
    have hr : Grammar.Spells .primary "L1_?" (.leaf (.ofName "L1_?")) := Grammar.spells_name (by decide)
    exact Grammar.parse_of_spells (hl.unary.conjunction.disjunction.or hr.unary.not.conjunction)
  have hb : ((Expr.or (.leaf (.ofName "A*")) (.not (.leaf (.ofName "L1_?")))).rebind (Table.run .strict
      [.setNames .path ["A1", "A2", "B", "A3"], .setNames .seed ["L1_X", "L1_Y"]]).context).2 = .ok [] := rfl
  obtain ⟨text, ht, hi, hs⟩ := recast_dump_eq_iff hp hb
  refine ⟨hp, _, he, hb, rfl, text, ht _ ⟨rfl, rfl⟩, fun hd => ?_, ?_⟩
  · have h3 : (3 : Nat) < 3 := hi.mp hd ⟨"A*", .path, [⟨"A1", 0⟩, ⟨"A2", 1⟩, ⟨"A3", 3⟩], true⟩ List.mem_cons_self
    omega
  · have h := hs [(Table.run .strict
      [.setNames .path ["A1", "A2", "B", "A3"], .setNames .seed ["L1_X", "L1_Y"]]).context] (by simp [Context.SameNames])
    simpa using h

end Expr

end TriggerLogic
