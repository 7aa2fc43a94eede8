import TriggerLogic.Expr.Dump
import TriggerLogic.Proofs.Asking

/-! One traversal collects references to the leaves, another the leaves, and what is written through
the `n`-th reference shows at the `n`-th leaf alone, wherever the tree is read. -/

namespace TriggerLogic

inductive Leaf.Update where
  | bind (bindings : List Binding)
  | reset
deriving DecidableEq, Repr

namespace Leaf.Update

def apply : Update → Leaf → Leaf
  | bind bindings, l => l.bind bindings
  | reset, l => l.reset

lemma apply_pattern (u : Update) (l : Leaf) : (u.apply l).pattern = l.pattern := by
  cases u <;> rfl

lemma apply_level (u : Update) (l : Leaf) : (u.apply l).level = l.level := by
  cases u <;> rfl

end Leaf.Update

inductive Skeleton where
  | constant (value : Bool)
  | hole
  | not (operand : Skeleton)
  | and (left right : Skeleton)
  | or (left right : Skeleton)
deriving DecidableEq, Repr

structure Reader (α : Type) where
  constant : Bool → α
  not : α → α
  and : α → α → α
  or : α → α → α

namespace Reader

def text : Reader String where
  constant := Token.Kind.constantWord
  not a := "(NOT " ++ a ++ ")"
  and a b := "(" ++ a ++ " AND " ++ b ++ ")"
  or a b := "(" ++ a ++ " OR " ++ b ++ ")"

def verdict : Reader Verdict where
  constant b := ⟨b, []⟩
  not v := ⟨!v.value, v.asked⟩
  and := Verdict.followedBy true
  or := Verdict.followedBy false

def tree : Reader Expr where
  constant := .constant
  not := .not
  and := .and
  or := .or

end Reader

/-- Every hole takes the first of what is left, and what is left in the end is answered too. -/
def Skeleton.read {α : Type} (r : Reader α) : Skeleton → List α → Option (α × List α)
  | constant b, xs => some (r.constant b, xs)
  | hole, [] => none
  | hole, x :: xs => some (x, xs)
  | not s, xs => do
    let (a, xs) ← s.read r xs
    return (r.not a, xs)
  | and s t, xs => do
    let (a, xs) ← s.read r xs
    let (b, xs) ← t.read r xs
    return (r.and a b, xs)
  | or s t, xs => do
    let (a, xs) ← s.read r xs
    let (b, xs) ← t.read r xs
    return (r.or a b, xs)

namespace Expr

def skeleton : Expr → Skeleton
  | constant b => .constant b
  | leaf _ => .hole
  | not e => .not e.skeleton
  | and l r => .and l.skeleton r.skeleton
  | or l r => .or l.skeleton r.skeleton

def fold {α : Type} (r : Reader α) (f : Leaf → α) : Expr → α
  | constant b => r.constant b
  | leaf l => f l
  | not e => r.not (e.fold r f)
  | and a b => r.and (a.fold r f) (b.fold r f)
  | or a b => r.or (a.fold r f) (b.fold r f)

def collect : Expr → List Turn → List (List Turn) → List (List Turn)
  | constant _, _, out => out
  | leaf _, place, out => out ++ [place]
  | not e, place, out => e.collect (place ++ [.under]) out
  | and l r, place, out | or l r, place, out =>
    r.collect (place ++ [.right]) (l.collect (place ++ [.left]) out)

def references (e : Expr) : List (List Turn) :=
  e.collect [] []

def writeAt (f : Leaf → Leaf) : Expr → List Turn → Expr
  | leaf l, [] => leaf (f l)
  | not e, .under :: place => not (e.writeAt f place)
  | and l r, .left :: place => and (l.writeAt f place) r
  | and l r, .right :: place => and l (r.writeAt f place)
  | or l r, .left :: place => or (l.writeAt f place) r
  | or l r, .right :: place => or l (r.writeAt f place)
  | e, _ => e

variable {e e' : Expr} {f : Leaf → Leaf} {n : Nat}

lemma fold_tree : e.fold .tree leaf = e := by
  induction e with
  | constant b => rfl
  | leaf l => rfl
  | not e ih => exact congrArg not ih
  | and l r ihl ihr => exact congrArg₂ and ihl ihr
  | or l r ihl ihr => exact congrArg₂ or ihl ihr

lemma fold_text : e.fold .text Leaf.dump = e.dump := by
  induction e with
  | constant b => rfl
  | leaf l => rfl
  | not e ih => rw [fold, ih, dump, Reader.text]
  | and l r ihl ihr | or l r ihl ihr => rw [fold, ihl, ihr, dump, Reader.text]

lemma fold_verdict (ctx : Context) : e.fold .verdict (Leaf.judge ctx) = e.judge ctx := by
  induction e with
  | constant b => rfl
  | leaf l => rfl
  | not e ih => rw [fold, ih, judge, Reader.verdict]
  | and l r ihl ihr | or l r ihl ihr => rw [fold, ihl, ihr, judge, Reader.verdict]

section Read

variable {α : Type} (r : Reader α) (g : Leaf → α)

lemma read_append (xs : List α) :
    e.skeleton.read r (e.leaves.map g ++ xs) = some (e.fold r g, xs) := by
  induction e generalizing xs with
  | constant b => rfl
  | leaf l => rfl
  | not e ih => simp [skeleton, leaves, Skeleton.read, fold, ih]
  | and s t ihs iht | or s t ihs iht => simp [skeleton, leaves, Skeleton.read, fold, ihs, iht]

lemma read_leaves : e.skeleton.read r (e.leaves.map g) = some (e.fold r g, []) := by
  have hr := read_append r g (e := e) []
  rwa [List.append_nil] at hr

end Read

lemma eq_of_skeleton (hs : e.skeleton = e'.skeleton) (hl : e.leaves = e'.leaves) : e = e' := by
  have hr : e.skeleton.read .tree (e.leaves.map leaf) = some (e, []) := by
    rw [read_leaves, fold_tree]
  rw [hs, hl, read_leaves, fold_tree, Option.some.injEq, Prod.mk.injEq] at hr
  exact hr.1.symm

lemma collect_eq (place : List Turn) (out : List (List Turn)) :
    e.collect place out = out ++ e.located.map fun x => place ++ x.1 := by
  induction e generalizing place out with
  | constant b => simp [collect, located]
  | leaf l => simp [collect, located]
  | not e ih => simp [collect, located, ih, Function.comp_def]
  | and l r ihl ihr | or l r ihl ihr => simp [collect, located, ihl, ihr, Function.comp_def]

lemma references_eq : e.references = e.located.map Prod.fst := by
  simp [references, collect_eq]

lemma subtree_references : e.references.map e.subtree = e.leaves.map fun l => some (leaf l) := by
  rw [references_eq, ← map_snd_located, List.map_map, List.map_map]
  exact List.map_congr_left fun x hx => mem_located_iff.mp hx

lemma length_located : e.located.length = e.leaves.length := by
  rw [← map_snd_located, List.length_map]

lemma modifyLeaf_eq_writeAt : e.modifyLeaf f n = (e.references[n]?).elim e (e.writeAt f) := by
  rw [references_eq, List.getElem?_map]
  induction e generalizing n with
  | constant b => rfl
  | leaf l => cases n <;> rfl
  | not e ih =>
    rw [modifyLeaf, ih, located, List.getElem?_map]
    cases e.located[n]? <;> rfl
  | and l r ihl ihr | or l r ihl ihr =>
    rw [modifyLeaf, located, List.getElem?_append, List.length_map, length_located]
    split
    · rw [ihl, List.getElem?_map]
      cases l.located[n]? <;> rfl
    · rw [ihr, List.getElem?_map]
      cases r.located[n - l.leaves.length]? <;> rfl

lemma modify_append {α : Type} (g : α → α) (xs ys : List α) (n : Nat) : (xs ++ ys).modify n g =
    if n < xs.length then xs.modify n g ++ ys else xs ++ ys.modify (n - xs.length) g := by
  induction xs generalizing n with
  | nil => simp
  | cons x xs ih =>
    cases n with
    | zero => simp
    | succ n =>
      rw [List.cons_append, List.modify_succ_cons, ih, List.length_cons, Nat.add_sub_add_right]
      simp only [Nat.add_lt_add_iff_right, List.modify_succ_cons]
      split <;> rfl

lemma leaves_modifyLeaf : (e.modifyLeaf f n).leaves = e.leaves.modify n f := by
  induction e generalizing n with
  | constant b => rw [modifyLeaf, leaves, List.modify_nil]
  | leaf l => cases n <;> simp [modifyLeaf, leaves]
  | not e ih => exact ih
  | and l r ihl ihr | or l r ihl ihr =>
    rw [leaves, modify_append, modifyLeaf]
    split
    · rw [leaves, ihl]
    · rw [leaves, ihr]

lemma skeleton_modifyLeaf : (e.modifyLeaf f n).skeleton = e.skeleton := by
  induction e generalizing n with
  | constant b => rfl
  | leaf l => cases n <;> rfl
  | not e ih => exact congrArg Skeleton.not ih
  | and l r ihl ihr | or l r ihl ihr =>
    rw [modifyLeaf]
    split
    · rw [skeleton, ihl, skeleton]
    · rw [skeleton, ihr, skeleton]

lemma collect_modifyLeaf (place : List Turn) (out : List (List Turn)) :
    (e.modifyLeaf f n).collect place out = e.collect place out := by
  induction e generalizing n place out with
  | constant b => rfl
  | leaf l => cases n <;> rfl
  | not e ih => exact ih _ _
  | and l r ihl ihr | or l r ihl ihr =>
    rw [modifyLeaf]
    split
    · rw [collect, ihl, collect]
    · rw [collect, ihr, collect]

lemma modifyLeaf_comm {f g : Leaf → Leaf} {m n : Nat} (h : m ≠ n) :
    (e.modifyLeaf f n).modifyLeaf g m = (e.modifyLeaf g m).modifyLeaf f n := by
  apply eq_of_skeleton
  · rw [skeleton_modifyLeaf, skeleton_modifyLeaf, skeleton_modifyLeaf, skeleton_modifyLeaf]
  · rw [leaves_modifyLeaf, leaves_modifyLeaf, leaves_modifyLeaf, leaves_modifyLeaf]
    exact List.modify_modify_ne f g e.leaves h.symm

lemma modifyLeaf_of_le (h : e.leaves.length ≤ n) : e.modifyLeaf f n = e := by
  apply eq_of_skeleton
  · exact skeleton_modifyLeaf
  · rw [leaves_modifyLeaf, List.modify_eq_self h]

lemma map_leaves_modifyLeaf {α : Type} {g : Leaf → α} (h : ∀ l, g (f l) = g l) :
    (e.modifyLeaf f n).leaves.map g = e.leaves.map g := by
  rw [leaves_modifyLeaf]
  apply List.ext_getElem?
  intro i
  rw [List.getElem?_map, List.getElem?_map, List.getElem?_modify]
  by_cases hi : n = i
  · simp [hi, Function.comp_def, h]
  · simp [hi]

lemma read_modifyLeaf {α : Type} (r : Reader α) (g : Leaf → α) :
    e.skeleton.read r ((e.leaves.modify n f).map g) = some ((e.modifyLeaf f n).fold r g, []) := by
  have hs : (e.modifyLeaf f n).skeleton = e.skeleton := skeleton_modifyLeaf
  rw [← hs, ← leaves_modifyLeaf, read_leaves]

theorem traversals_agree (e : Expr) (n : Nat) (u : Leaf.Update) :
    e.references.map e.subtree = e.leaves.map (fun l => some (leaf l)) ∧
    e.modifyLeaf u.apply n = (e.references[n]?).elim e (e.writeAt u.apply) ∧
    (e.modifyLeaf u.apply n).references = e.references ∧
    (e.modifyLeaf u.apply n).leaves = e.leaves.modify n u.apply ∧
    (e.leaves.length ≤ n → e.modifyLeaf u.apply n = e) ∧
    (e.modifyLeaf u.apply n).skeleton = e.skeleton ∧
    (e.modifyLeaf u.apply n).patterns = e.patterns ∧
    (e.modifyLeaf u.apply n).leaves.map Leaf.level = e.leaves.map Leaf.level ∧
    (∀ m v, m ≠ n → (e.modifyLeaf u.apply n).modifyLeaf (Leaf.Update.apply v) m =
      (e.modifyLeaf (Leaf.Update.apply v) m).modifyLeaf u.apply n) ∧
    e.skeleton.read .text ((e.leaves.modify n u.apply).map Leaf.dump) =
      some ((e.modifyLeaf u.apply n).dump, []) ∧
    ∀ ctx, e.skeleton.read .verdict ((e.leaves.modify n u.apply).map (Leaf.judge ctx)) =
      some (⟨(e.modifyLeaf u.apply n).evaluate ctx, ((e.modifyLeaf u.apply n).judge ctx).asked⟩, []) := by
  refine ⟨subtree_references, modifyLeaf_eq_writeAt, collect_modifyLeaf [] [], leaves_modifyLeaf,
    modifyLeaf_of_le, skeleton_modifyLeaf, ?_, ?_, fun m v => modifyLeaf_comm, ?_, fun ctx => ?_⟩
  · exact map_leaves_modifyLeaf u.apply_pattern
  · exact map_leaves_modifyLeaf u.apply_level
  · rw [read_modifyLeaf, fold_text]
  · rw [read_modifyLeaf, fold_verdict]
    rfl

theorem traversals_agree_second :
    ∃ e : Expr, e.patterns = ["A", "L1_B"] ∧
      (e.modifyLeaf (Leaf.bind [⟨"L1_B", 7⟩]) 1).leaves =
        [⟨"A", .path, [⟨"A", 0⟩], true⟩, ⟨"L1_B", .seed, [⟨"L1_B", 7⟩], true⟩] ∧
      (e.modifyLeaf (Leaf.bind [⟨"L1_B", 7⟩]) 1).modifyLeaf Leaf.reset 0 =
        (e.modifyLeaf Leaf.reset 0).modifyLeaf (Leaf.bind [⟨"L1_B", 7⟩]) 1 ∧
      e.modifyLeaf (Leaf.bind [⟨"L1_B", 7⟩]) 2 = e := by
  let e : Expr := .or (.and (.leaf ⟨"A", .path, [⟨"A", 0⟩], true⟩)
    (.not (.leaf ⟨"L1_B", .seed, [], false⟩))) (.constant true)
  obtain ⟨-, -, -, hl, -, -, -, -, hc, -⟩ := traversals_agree e 1 (.bind [⟨"L1_B", 7⟩])
  obtain ⟨-, -, -, -, ho, -⟩ := traversals_agree e 2 (.bind [⟨"L1_B", 7⟩])
  exact ⟨e, rfl, hl, hc 0 .reset (by decide), ho (by decide)⟩

end Expr

end TriggerLogic
