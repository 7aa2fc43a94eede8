import TriggerLogic.Proofs.Meaning

/-! What finding a value asks: the leaves reached ask one after the other, each its source and its
signals up to the first that passed. -/

namespace TriggerLogic

def Context.answer (ctx : Context) : Query → Bool
  | .hasSource level => ctx.hasSource level
  | .passed level index => ctx.passed level index

variable {ctx ctx' : Context}

namespace Leaf

variable {l : Leaf} {level : Level} {bs : List Binding}

def passedQueries (ctx : Context) (level : Level) (bs : List Binding) : List Query :=
  (bs.take ((bs.findIdx fun b => ctx.passed level b.index) + 1)).map fun b => .passed level b.index

def queries (ctx : Context) (l : Leaf) : List Query :=
  if l.bound then
    .hasSource l.level :: if ctx.hasSource l.level then passedQueries ctx l.level l.bindings else []
  else []

lemma anyPassed_asked : (anyPassed ctx level bs).asked = passedQueries ctx level bs := by
  induction bs with
  | nil => rfl
  | cons b bs ih =>
    rw [anyPassed]
    by_cases hp : ctx.passed level b.index = true
    · simp [hp, passedQueries, List.findIdx_cons]
    · simp [hp, ih, passedQueries, List.findIdx_cons]

lemma judge_asked : (l.judge ctx).asked = l.queries ctx := by
  rw [judge, queries]
  by_cases hb : l.bound = true
  · by_cases hs : ctx.hasSource l.level = true
    · simp [hb, hs, anyPassed_asked]
    · simp [hb, hs]
  · simp [hb]

lemma anyPassed_congr (h : ∀ q ∈ (anyPassed ctx level bs).asked, ctx'.answer q = ctx.answer q) :
    anyPassed ctx' level bs = anyPassed ctx level bs := by
  induction bs with
  | nil => rfl
  | cons b bs ih =>
    have hb : ctx'.passed level b.index = ctx.passed level b.index := by
      apply h (.passed level b.index)
      rw [anyPassed]
      split <;> simp
    rw [anyPassed, anyPassed, hb]
    by_cases hp : ctx.passed level b.index = true
    · simp [hp]
    · have ht : anyPassed ctx' level bs = anyPassed ctx level bs := by
        apply ih
        intro q hq
        apply h
        simp [anyPassed, hp, hq]
      simp [hp, ht]

lemma judge_congr (h : ∀ q ∈ (l.judge ctx).asked, ctx'.answer q = ctx.answer q) :
    l.judge ctx' = l.judge ctx := by
  by_cases hb : l.bound = true
  · have hs : ctx'.hasSource l.level = ctx.hasSource l.level := by
      apply h (.hasSource l.level)
      simp [judge_asked, queries, hb]
    by_cases hc : ctx.hasSource l.level = true
    · have hp : anyPassed ctx' l.level l.bindings = anyPassed ctx l.level l.bindings := by
        apply anyPassed_congr
        intro q hq
        apply h
        simp [judge, hb, hc, hq]
      simp [judge, hs, hp]
    · simp [judge, hs, hc]
  · simp [judge, hb]

end Leaf

namespace Expr

inductive Turn where
  | under
  | left
  | right
deriving DecidableEq, Repr

def operand : Expr → Turn → Option Expr
  | not e, .under => some e
  | and l _, .left | or l _, .left => some l
  | and _ r, .right | or _ r, .right => some r
  | _, _ => none

def subtree (e : Expr) (place : List Turn) : Option Expr :=
  place.foldlM operand e

def located : Expr → List (List Turn × Leaf)
  | constant _ => []
  | leaf l => [([], l)]
  | not e => e.located.map fun x => (.under :: x.1, x.2)
  | and l r | or l r =>
    l.located.map (fun x => (.left :: x.1, x.2)) ++ r.located.map fun x => (.right :: x.1, x.2)

def leavesOpen (ctx : Context) : Expr → Bool
  | and l _ => l.value (Leaf.passes ctx)
  | or l _ => !l.value (Leaf.passes ctx)
  | _ => true

/-- Every node that has the place on its right leaves it to the right. -/
def Reached (ctx : Context) (e : Expr) (place : List Turn) : Prop :=
  ∀ n < place.length, place[n]? = some .right →
    ∀ node ∈ e.subtree (place.take n), node.leavesOpen ctx = true

instance (e : Expr) : DecidablePred (e.Reached ctx) := fun place =>
  inferInstanceAs (Decidable (∀ n < place.length, place[n]? = some .right →
    ∀ node ∈ e.subtree (place.take n), node.leavesOpen ctx = true))

variable {e e' : Expr} {turn : Turn} {place : List Turn}

lemma subtree_cons : e.subtree (turn :: place) = (e.operand turn).bind fun e' => e'.subtree place :=
  rfl

lemma reached_nil : e.Reached ctx [] := by
  intro n hn
  cases hn

lemma reached_cons (h : e.operand turn = some e') :
    e.Reached ctx (turn :: place) ↔ (turn = .right → e.leavesOpen ctx = true) ∧ e'.Reached ctx place := by
  have hs : ∀ n, e.subtree ((turn :: place).take (n + 1)) = e'.subtree (place.take n) := by
    intro n
    rw [List.take_succ_cons, subtree_cons, h]
    rfl
  constructor
  · intro hr
    refine ⟨fun ht => ?_, fun n hn => ?_⟩
    · exact hr 0 (by simp) (by simp [ht]) e rfl
    · have hr' := hr (n + 1) (by simpa using hn)
      rwa [hs] at hr'
  · rintro ⟨ht, hr⟩ n hn
    cases n with
    | zero => simpa [subtree] using ht
    | succ n =>
      rw [hs]
      exact hr n (by simpa using hn)

def queries (ctx : Context) (e : Expr) : List Query :=
  (e.located.filter fun x => e.Reached ctx x.1).flatMap fun x => x.2.queries ctx

lemma queries_operand (h : e.operand turn = some e') :
    ((e'.located.map fun x => (turn :: x.1, x.2)).filter fun x => e.Reached ctx x.1).flatMap
        (fun x => x.2.queries ctx) =
      if turn = .right → e.leavesOpen ctx = true then e'.queries ctx else [] := by
  rw [List.filter_map, List.flatMap_map, queries]
  by_cases ho : turn = .right → e.leavesOpen ctx = true
  · simp only [Function.comp_def, reached_cons h, eq_true ho, true_and, if_true]
  · simp only [Function.comp_def, reached_cons h, eq_false ho, false_and, decide_false,
      List.filter_false, List.flatMap_nil, if_false]

lemma queries_binary {l r : Expr} (hl : e.operand .left = some l) (hr : e.operand .right = some r)
    (he : e.located = l.located.map (fun x => (.left :: x.1, x.2)) ++
      r.located.map fun x => (.right :: x.1, x.2)) :
    e.queries ctx = l.queries ctx ++ if e.leavesOpen ctx = true then r.queries ctx else [] := by
  rw [queries, he, List.filter_append, List.flatMap_append, queries_operand hl, queries_operand hr]
  simp

lemma judge_asked : (e.judge ctx).asked = e.queries ctx := by
  induction e with
  | constant b => rfl
  | leaf l => simp [judge, Leaf.judge_asked, queries, located, reached_nil]
  | not e ih =>
    have ho : (not e).operand .under = some e := rfl
    rw [queries, located, queries_operand ho]
    simpa [judge] using ih
  | and l r ihl ihr | or l r ihl ihr =>
    rw [queries_binary rfl rfl rfl, leavesOpen, ← evaluate_eq_value, evaluate, ← ihl, ← ihr, judge,
      Verdict.followedBy]
    cases hv : (l.judge ctx).value <;> simp

lemma judge_congr (h : ∀ q ∈ (e.judge ctx).asked, ctx'.answer q = ctx.answer q) :
    e.judge ctx' = e.judge ctx := by
  induction e with
  | constant b => rfl
  | leaf l => exact Leaf.judge_congr h
  | not e ih => rw [judge, judge, ih h]
  | and l r ihl ihr | or l r ihl ihr =>
    rw [judge, Verdict.followedBy] at h
    rw [judge, judge, Verdict.followedBy, Verdict.followedBy]
    split at h
    · rename_i hv
      rw [ihl fun q hq => h q (List.mem_append_left _ hq), ihr fun q hq => h q (List.mem_append_right _ hq)]
    · rename_i hv
      rw [ihl h, if_neg hv, if_neg hv]

lemma map_snd_located : e.located.map Prod.snd = e.leaves := by
  induction e with
  | constant b => rfl
  | leaf l => rfl
  | not e ih => simpa [located, leaves, Function.comp_def] using ih
  | and l r ihl ihr | or l r ihl ihr => simp [located, leaves, Function.comp_def, ← ihl, ← ihr]

lemma mem_located_iff {l : Leaf} : (place, l) ∈ e.located ↔ e.subtree place = some (leaf l) := by
  induction e generalizing place with
  | constant b =>
    cases place with
    | nil => simp [located, subtree]
    | cons turn place => simp [located, subtree_cons, operand]
  | leaf l' =>
    cases place with
    | nil => simp [located, subtree, eq_comm]
    | cons turn place => simp [located, subtree_cons, operand]
  | not e ih =>
    cases place with
    | nil => simp [located, subtree]
    | cons turn place => cases turn <;> simp [located, subtree_cons, operand, ih]
  | and l r ihl ihr | or l r ihl ihr =>
    cases place with
    | nil => simp [located, subtree]
    | cons turn place => cases turn <;> simp [located, subtree_cons, operand, ihl, ihr]

theorem evaluate_asks (ctx : Context) (e : Expr) :
    e.evaluate ctx = e.value (Leaf.passes ctx) ∧
    e.located.map Prod.snd = e.leaves ∧
    (∀ place l, (place, l) ∈ e.located ↔ e.subtree place = some (leaf l)) ∧
    (e.judge ctx).asked =
      (e.located.filter fun x => e.Reached ctx x.1).flatMap (fun x => x.2.queries ctx) ∧
    ∀ ctx' : Context, (∀ q ∈ (e.judge ctx).asked, ctx'.answer q = ctx.answer q) →
      e.evaluate ctx' = e.evaluate ctx ∧ (e.judge ctx').asked = (e.judge ctx).asked := by
  refine ⟨evaluate_eq_value ctx, map_snd_located, fun place l => mem_located_iff, judge_asked, ?_⟩
  intro ctx' h
  have hj : e.judge ctx' = e.judge ctx := judge_congr h
  exact ⟨congrArg Verdict.value hj, congrArg Verdict.asked hj⟩

theorem evaluate_asks_first_passed :
    ∃ ctx ctx' : Context, ∃ e : Expr, e.patterns = ["A*", "B", "L1_C"] ∧
      (e.judge ctx).asked =
        [.hasSource .path, .passed .path 0, .passed .path 1, .hasSource .seed] ∧
      ctx.passed .path 2 ≠ ctx'.passed .path 2 ∧ e.evaluate ctx' = true := by
  let e : Expr := .and (.or (.leaf ⟨"A*", .path, [⟨"A1", 0⟩, ⟨"A2", 1⟩, ⟨"A3", 2⟩], true⟩)
    (.leaf ⟨"B", .path, [⟨"B", 3⟩], true⟩)) (.not (.leaf ⟨"L1_C", .seed, [⟨"L1_C", 0⟩], true⟩))
  let ctx : Context := {
    knownNames := fun _ => []
    indexOf := fun _ _ => none
    passed := fun _ i => i = 1
    hasSource := fun level => level = .path }
  let ctx' : Context := { ctx with passed := fun _ i => i ≠ 0 }
  have ha : ∀ q ∈ (e.judge ctx).asked, ctx'.answer q = ctx.answer q := by decide
  obtain ⟨hv, -, -, hq, hs⟩ := evaluate_asks ctx e
  refine ⟨ctx, ctx', e, rfl, hq.trans rfl, by decide, ?_⟩
  exact (hs ctx' ha).1.trans (hv.trans rfl)

end Expr

end TriggerLogic
