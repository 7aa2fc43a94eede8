import TriggerLogic.Proofs.Canonical
import TriggerLogic.Proofs.Disjunction
import TriggerLogic.Proofs.Meaning

/-! A bound filter shows the names that its leaves are bound to. Where each of these stands for
itself, the text is a condition that holds of the events that the filter accepts. -/

namespace TriggerLogic

open Token Grammar

namespace Level

/-- Written in a condition, the name stands for itself on the level. -/
def Plain (level : Level) (name : String) : Prop :=
  IsName name ∧ '*' ∉ name.toList ∧ '?' ∉ name.toList ∧ classify name = level

instance (level : Level) (name : String) : Decidable (level.Plain name) :=
  inferInstanceAs (Decidable (_ ∧ _))

end Level

namespace Table

def Plain (t : Table) : Prop :=
  ∀ level, ∀ name ∈ (t.signals level).names, level.Plain name

end Table

namespace Expr

variable {e : Expr} {es : List Expr}

lemma value_foldl_or (holds : Leaf → Bool) :
    (es.foldl .or e).value holds = (e.value holds || es.any (value holds)) := by
  induction es generalizing e with
  | nil => simp
  | cons e' es ih => rw [List.foldl_cons, ih, value, List.any_cons, Bool.or_assoc]

lemma shown_foldl_or : (es.foldl .or e).shown = (es.map shown).foldl .or e.shown :=
  map_foldl_or fun _ _ => rfl

end Expr

namespace Leaf

variable {ctx event : Context} {l : Leaf} {b : Binding} {level : Level}

/-- The names of the leaf, written in a condition, are bound to the same signals again. -/
def Restores (ctx : Context) (l : Leaf) : Prop :=
  l.bound = true ∧ ∀ b ∈ l.bindings, l.level.Plain b.name ∧ ctx.indexOf l.level b.name = some b.index

lemma Restores.named (h : l.Restores ctx) : l.Named :=
  fun _ b hm => (h.2 b hm).1.1

lemma Restores.sameNames {ctx' : Context} (h : ctx.SameNames ctx') (hr : l.Restores ctx) : l.Restores ctx' := by
  rwa [Restores, h.2]

lemma leaves_shown (hb : l.bound = true) : l.shown.leaves = l.bindings.map fun b => ofName b.name := by
  rw [shown, hb]
  cases l.bindings with
  | nil => rfl
  | cons b bs => simp [Expr.leaves_foldl_or, Binding.shown, Expr.leaves, List.flatMap_map, ← List.map_eq_flatMap]

lemma value_shown (hb : l.bound = true) (holds : Leaf → Bool) :
    l.shown.value holds = l.bindings.any fun b => holds (ofName b.name) := by
  rw [shown, hb]
  cases l.bindings with
  | nil => rfl
  | cons b bs => simp [Expr.value_foldl_or, Binding.shown, Expr.value, List.any_map, Function.comp_def]

variable [RegexLibrary]

lemma BoundTo.restores {t : Table} (ht : t.Consistent) (hp : t.Plain) (h : l.BoundTo t.context) :
    l.Restores t.context := by
  obtain ⟨hb, r, hr, hbs⟩ := h
  refine ⟨hb, fun b hm => ?_⟩
  rw [hbs, mem_bindings_iff ht hr] at hm
  exact ⟨hp l.level b.name (List.mem_of_getElem? hm.1), ((ht l.level).indexOf_eq_some b.name b.index).mpr hm.1⟩

lemma settle_ofName (hp : level.Plain b.name) (hi : ctx.indexOf level b.name = some b.index) :
    (ofName b.name).settle ctx = (⟨b.name, level, [b], true⟩, .ok []) := by
  obtain ⟨-, hs, hq, rfl⟩ := hp
  have hg : ¬ (ofName b.name).isGlob = true := by
    rw [isGlob_iff]
    exact not_or.mpr ⟨hs, hq⟩
  have hl : (ofName b.name).lookup ctx = [b] := by
    simp only [lookup, ofName, hi]
  rw [settle, resolve, if_neg hg, hl]
  rfl

lemma settleAll_outcome_of_quiet {ls : List Leaf} (h : ∀ l ∈ ls, (l.settle ctx).2 = .ok []) :
    (settleAll ctx ls).2 = .ok [] := by
  induction ls with
  | nil => rfl
  | cons l ls ih =>
    obtain ⟨hl, hls⟩ := List.forall_mem_cons.mp h
    rcases hs : l.settle ctx with ⟨l', o⟩
    obtain rfl : o = .ok [] := by rw [← hl, hs]
    simp only [settleAll, hs, ih hls]
    rfl

lemma Restores.value_shown_rebind (h : l.Restores ctx) :
    (l.shown.value fun l => (l.rebind ctx).passes event) = l.passes event := by
  have hb : ∀ b ∈ l.bindings,
      ((ofName b.name).rebind ctx).passes event = (event.hasSource l.level && event.passed l.level b.index) := by
    intro b hm
    have hs : (ofName b.name).rebind ctx = ⟨b.name, l.level, [b], true⟩ :=
      congrArg Prod.fst (settle_ofName (h.2 b hm).1 (h.2 b hm).2)
    simp [hs, passes]
  rw [value_shown h.1, passes, h.1, Bool.true_and, List.and_any_distrib_left, Bool.eq_iff_iff,
    List.any_eq_true, List.any_eq_true]
  exact exists_congr fun b => and_congr_right fun hm => by rw [hb b hm]

end Leaf

namespace Expr

variable {e : Expr} {ctx : Context}

lemma leaves_shown : e.shown.leaves = e.leaves.flatMap fun l => l.shown.leaves := by
  induction e with
  | constant b => rfl
  | leaf l => simp [shown, leaves]
  | not e ih => exact ih
  | and l r ihl ihr | or l r ihl ihr => simp [shown, leaves, ihl, ihr]

lemma value_shown (holds : Leaf → Bool) : e.shown.value holds = e.value fun l => l.shown.value holds := by
  induction e with
  | constant b => rfl
  | leaf l => rfl
  | not e ih => exact congrArg (!·) ih
  | and l r ihl ihr | or l r ihl ihr => rw [shown, value, value, ihl, ihr]

variable [RegexLibrary]

lemma rebind_shown_outcome (h : ∀ l ∈ e.leaves, l.Restores ctx) : (e.shown.rebind ctx).2 = .ok [] := by
  rw [rebind_outcome, leaves_shown]
  apply Leaf.settleAll_outcome_of_quiet
  intro _ hr
  obtain ⟨m, hm, rfl⟩ := List.mem_map.mp hr
  obtain ⟨l, hl, hs⟩ := List.mem_flatMap.mp hm
  rw [Leaf.leaves_shown (h l hl).1] at hs
  obtain ⟨b, hb, rfl⟩ := List.mem_map.mp hs
  obtain ⟨hp, hi⟩ := (h l hl).2 b hb
  exact congrArg Prod.snd (Leaf.settle_ofName hp hi)

lemma evaluate_rebind_shown (h : ∀ l ∈ e.leaves, l.Restores ctx) (event : Context) :
    (e.shown.rebind ctx).1.evaluate event = e.evaluate event := by
  rw [evaluate_eq_value, evaluate_eq_value, rebind_of_ok (rebind_shown_outcome h), value_mapLeaves, value_shown]
  exact value_congr fun l hl => (h l hl).value_shown_rebind

end Expr

namespace Condition

variable {cs : List Condition}

lemma spells_dumps (hn : cs ≠ []) (h : ∀ l ∈ leaves cs, l.Named) :
    Spells .disjunction (" OR ".intercalate (cs.map fun c => c.root.dump)) (joined cs).shown := by
  have hs : ∀ c ∈ cs, Spells .conjunction c.root.dump c.root.shown := fun c hc =>
    (Expr.spells_dump fun l hl => h l (List.mem_flatMap.mpr ⟨c, hc, hl⟩)).unary.conjunction
  cases cs with
  | nil => exact absurd rfl hn
  | cons c cs =>
    obtain ⟨hc, hcs⟩ := List.forall_mem_cons.mp hs
    rw [List.map_cons, intercalate_cons, joined, Expr.shown_foldl_or, List.map_map]
    exact hc.disjunction.or_foldl_map hcs

end Condition

namespace Filter

variable {f : Filter}

lemma accept_eq_evaluate_joined (hc : f.configured = true) (event : Context) :
    f.accept event = (Condition.joined f.conditions).evaluate event := by
  rw [accept, judge, if_pos hc, Condition.judgeAny_eq_judge_joined, Expr.evaluate]

section

variable [RegexLibrary]

lemma conditions_ne_nil {config : FilterConfig} {fresh : Filter} (h : ofConfig config = .ok fresh)
    (past : List Call) : (fresh.after past).conditions ≠ [] := by
  obtain ⟨hn, cs, hm, hf⟩ := ofConfig_eq_ok_iff.mp h
  intro he
  have hr := (fresh.after_config_reset past).2
  rw [he, hf] at hr
  obtain rfl : cs = [] := List.map_eq_nil_iff.mp hr.symm
  exact hn (List.forall₂_nil_right_iff.mp (Condition.mapM_parse_eq_ok_iff.mp hm))

theorem evaluate_display_eq_accept {config : FilterConfig} {fresh : Filter}
    (h : ofConfig config = .ok fresh) {policy : Policy} {ops : List Table.Op}
    (hp : (Table.run policy ops).Plain) {past : List Call} {notices : List Notice}
    (hl : fresh.latest past = some ((Table.run policy ops).context, .ok notices)) :
    ∃ e, Expr.parse (fresh.after past).display = .ok e ∧
      ∀ ctx, (Table.run policy ops).context.SameNames ctx → (e.rebind ctx).2 = .ok [] ∧
        ∀ event, (e.rebind ctx).1.evaluate event = (fresh.after past).accept event := by
  have hf := configured_of_ofConfig h
  obtain ⟨-, hc, ha⟩ := after_of_latest hf hl
  have hb : Condition.BoundTo (Table.run policy ops).context (fresh.after past).conditions := by
    rw [ha notices rfl] at hc ⊢
    exact configure_boundTo (by simp [Works, hf]) hc
  have hr : ∀ ctx, (Table.run policy ops).context.SameNames ctx →
      ∀ l ∈ Condition.leaves (fresh.after past).conditions, l.Restores ctx := by
    intro ctx hs l hm
    obtain ⟨c, hcs, hm⟩ := List.mem_flatMap.mp hm
    exact ((hb c hcs l hm).restores (Table.run_consistent policy ops) hp).sameNames hs
  have hd := Condition.spells_dumps (conditions_ne_nil h past) fun l hm => (hr _ ⟨rfl, rfl⟩ l hm).named
  refine ⟨_, parse_of_spells hd, fun ctx hs => ?_⟩
  have hj := hr ctx hs
  rw [← Condition.leaves_joined] at hj
  refine ⟨Expr.rebind_shown_outcome hj, fun event => ?_⟩
  rw [Expr.evaluate_rebind_shown hj, accept_eq_evaluate_joined hc]

end

theorem evaluate_display_eq_accept_glob_and_missing :
    (Table.run .strict [.setNames .path ["A1", "B", "A2"], .setNames .seed ["L1_X"]]).Plain ∧
    ∃ fresh, ofConfig { conditions := ["L1_? AND NOT A*", "C"], policy := some .lenient } = .ok fresh ∧
      (fresh.after [.configure (Table.run .strict
        [.setNames .path ["A1", "B", "A2"], .setNames .seed ["L1_X"]]).context]).display =
          "(L1_X AND (NOT (A1 OR A2))) OR FALSE" ∧
      ∃ e, Expr.parse "(L1_X AND (NOT (A1 OR A2))) OR FALSE" = .ok e ∧
        ∀ event, (e.rebind (Table.run .strict
          [.setNames .path ["A1", "B", "A2"], .setNames .seed ["L1_X"]]).context).1.evaluate event =
            (fresh.after [.configure (Table.run .strict
              [.setNames .path ["A1", "B", "A2"], .setNames .seed ["L1_X"]]).context]).accept event := by
  have hp : (Table.run .strict [.setNames .path ["A1", "B", "A2"], .setNames .seed ["L1_X"]]).Plain := by
    intro level
    cases level with
    | path => decide
    | seed => decide
  have h : ofConfig { conditions := ["L1_? AND NOT A*", "C"], policy := some .lenient } =
      .ok ⟨{ conditions := ["L1_? AND NOT A*", "C"], policy := some .lenient },
        [⟨"L1_? AND NOT A*", .and (.leaf (.ofName "L1_?")) (.not (.leaf (.ofName "A*")))⟩,
          ⟨"C", .leaf (.ofName "C")⟩], false⟩ := by cbv
  have hl : Filter.latest ⟨{ conditions := ["L1_? AND NOT A*", "C"], policy := some .lenient },
      [⟨"L1_? AND NOT A*", .and (.leaf (.ofName "L1_?")) (.not (.leaf (.ofName "A*")))⟩,
        ⟨"C", .leaf (.ofName "C")⟩], false⟩ [.configure (Table.run .strict
          [.setNames .path ["A1", "B", "A2"], .setNames .seed ["L1_X"]]).context] =
      some ((Table.run .strict [.setNames .path ["A1", "B", "A2"], .setNames .seed ["L1_X"]]).context,
        .ok [⟨"C", .path, .notFound, ["A1", "B", "A2"]⟩]) := rfl
  obtain ⟨e, he, ho⟩ := evaluate_display_eq_accept h hp hl
  exact ⟨hp, _, h, rfl, e, he, (ho _ ⟨rfl, rfl⟩).2⟩

end Filter

end TriggerLogic
