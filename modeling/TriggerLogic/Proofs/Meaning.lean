import TriggerLogic.Evaluation
import TriggerLogic.Proofs.Binding
import TriggerLogic.Proofs.Reading

/-! A tree bound to the names of a table holds as its text reads: the indices found at binding time
and the order of the names cancel out. -/

namespace TriggerLogic

namespace Expr

variable {e : Expr}

def value (holds : Leaf → Bool) : Expr → Bool
  | constant b => b
  | leaf l => holds l
  | not e => !e.value holds
  | and l r => l.value holds && r.value holds
  | or l r => l.value holds || r.value holds

lemma value_congr {p q : Leaf → Bool} (h : ∀ l ∈ e.leaves, p l = q l) : e.value p = e.value q := by
  induction e with
  | constant b => rfl
  | leaf l => exact h l (by simp [leaves])
  | not e ih => exact congrArg (!·) (ih h)
  | and l r ihl ihr | or l r ihl ihr =>
    obtain ⟨hl, hr⟩ := List.forall_mem_append.mp h
    rw [value, value, ihl hl, ihr hr]

lemma value_mapLeaves (f : Leaf → Leaf) (holds : Leaf → Bool) :
    (e.mapLeaves f).value holds = e.value fun l => holds (f l) := by
  induction e with
  | constant b => rfl
  | leaf l => rfl
  | not e ih => exact congrArg (!·) ih
  | and l r ihl ihr | or l r ihl ihr => rw [mapLeaves, value, value, ihl, ihr]

end Expr

namespace Leaf

variable {ctx : Context} {l : Leaf}

def passes (ctx : Context) (l : Leaf) : Bool :=
  l.bound && ctx.hasSource l.level && l.bindings.any fun b => ctx.passed l.level b.index

lemma anyPassed_value (level : Level) (bs : List Binding) :
    (anyPassed ctx level bs).value = bs.any fun b => ctx.passed level b.index := by
  induction bs with
  | nil => rfl
  | cons b bs ih =>
    rw [anyPassed, List.any_cons, ← ih]
    by_cases hp : ctx.passed level b.index = true
    · simp [hp]
    · simp [hp]

lemma judge_value : (l.judge ctx).value = l.passes ctx := by
  rw [judge, passes, ← anyPassed_value]
  by_cases hb : l.bound = true
  · by_cases hs : ctx.hasSource l.level = true
    · simp [hb, hs]
    · simp [hb, hs]
  · simp [hb]

end Leaf

namespace Expr

variable {e : Expr}

lemma evaluate_eq_value (ctx : Context) : e.evaluate ctx = e.value (Leaf.passes ctx) := by
  rw [evaluate]
  induction e with
  | constant b => rfl
  | leaf l => exact Leaf.judge_value
  | not e ih => exact congrArg (!·) ih
  | and l r ihl ihr | or l r ihl ihr =>
    rw [judge, value, ← ihl, ← ihr, Verdict.followedBy]
    cases hv : (l.judge ctx).value <;> simp [hv]

end Expr

namespace Signals

def Fired (s : Signals) (name : String) : Prop :=
  (name, true) ∈ s.names.zip s.results

lemma fired_iff {s : Signals} {name : String} :
    s.Fired name ↔ ∃ i, s.names[i]? = some name ∧ s.passed i = true := by
  simp only [Fired, List.mem_iff_getElem?, List.getElem?_zip_eq_some]
  refine exists_congr fun i => and_congr_right fun _ => ?_
  rw [passed, List.getD_eq_getElem?_getD]
  cases s.results[i]? <;> simp

end Signals

namespace Table

/-- Some known name that the pattern selects has passed, on the level that the pattern tells. -/
def Fires (t : Table) (pattern : String) : Prop :=
  (t.signals (.classify pattern)).available = true ∧
    ∃ name, (t.signals (.classify pattern)).Fired name ∧ Selects pattern name

lemma fires_iff {t : Table} {pattern : String} : t.Fires pattern ↔
    (t.signals (.classify pattern)).available = true ∧
      ∃ signal ∈ (t.signals (.classify pattern)).names.zip (t.signals (.classify pattern)).results,
        signal.2 = true ∧ Selects pattern signal.1 := by
  refine and_congr_right fun _ => ⟨?_, ?_⟩
  · rintro ⟨name, hf, hs⟩
    exact ⟨_, hf, rfl, hs⟩
  · rintro ⟨⟨name, bit⟩, hm, rfl, hs⟩
    exact ⟨name, hm, hs⟩

instance (t : Table) (pattern : String) : Decidable (t.Fires pattern) :=
  decidable_of_iff' _ fires_iff

/-- The tables tell the same of the event, in whatever order their names stand. -/
def SameEvent (t t' : Table) : Prop :=
  ∀ level, (t.signals level).available = (t'.signals level).available ∧
    ∀ name, (t.signals level).Fired name ↔ (t'.signals level).Fired name

variable {t t' : Table}

lemma SameEvent.fires (h : t.SameEvent t') (pattern : String) : t.Fires pattern ↔ t'.Fires pattern := by
  obtain ⟨ha, hf⟩ := h (.classify pattern)
  simp only [Fires, ha, hf]

lemma passes_eq_fires [RegexLibrary] {l : Leaf} (ht : t.Consistent) (hb : l.BoundTo t.context)
    (hl : l.level = .classify l.pattern) : l.passes t.context = decide (t.Fires l.pattern) := by
  obtain ⟨hbound, r, hr, hbs⟩ := hb
  rw [Bool.eq_iff_iff, decide_eq_true_iff, Fires, ← hl, Leaf.passes, hbound, hbs, Bool.true_and,
    Bool.and_eq_true, List.any_eq_true]
  refine and_congr_right fun _ => ?_
  simp only [Signals.fired_iff]
  constructor
  · rintro ⟨b, hm, hp⟩
    obtain ⟨hn, hs⟩ := (Leaf.mem_bindings_iff ht hr).mp hm
    exact ⟨b.name, ⟨b.index, hn, hp⟩, hs⟩
  · rintro ⟨name, ⟨i, hn, hp⟩, hs⟩
    exact ⟨⟨name, i⟩, (Leaf.mem_bindings_iff ht hr).mpr ⟨hn, hs⟩, hp⟩

end Table

namespace Grammar

lemma ReadsAs.leaf_eq {text : String} {e : Expr} (h : ReadsAs text e) {l : Leaf} (hl : l ∈ e.leaves) :
    l = .ofName l.pattern := by
  obtain ⟨ts, -, hd⟩ := h
  rw [hd.leaves] at hl
  obtain ⟨name, -, rfl⟩ := List.mem_map.mp hl
  rfl

end Grammar

namespace Expr

section

variable [RegexLibrary] {e : Expr} {ctx : Context} {notices : List Notice}

lemma level_of_mem_rebind {text : String} (h : Grammar.ReadsAs text e) {l : Leaf}
    (hl : l ∈ (e.rebind ctx).1.leaves) : l.level = .classify l.pattern := by
  -- A pass keeps pattern and level, so what the grammar says of the leaves still holds.
  have hm : l.reset ∈ (e.mapLeaves Leaf.reset).leaves := by
    rw [← rebind_reset, leaves_mapLeaves]
    exact List.mem_map_of_mem hl
  rw [leaves_mapLeaves] at hm
  obtain ⟨l', hl', hr⟩ := List.mem_map.mp hm
  obtain ⟨hp, hv⟩ : l'.pattern = l.pattern ∧ l'.level = l.level := by simpa [Leaf.reset] using hr
  rw [← hv, ← hp, h.leaf_eq hl']
  rfl

lemma value_rebind (holds : String → Bool) :
    (e.rebind ctx).1.value (fun l => holds l.pattern) = e.value fun l => holds l.pattern := by
  have hr : (e.rebind ctx).1.mapLeaves Leaf.reset = e.mapLeaves Leaf.reset := rebind_reset
  have h := congrArg (value fun l => holds l.pattern) hr
  rwa [value_mapLeaves, value_mapLeaves] at h

lemma evaluate_rebind_eq {text : String} {policy : Policy} {before after : List Table.Op}
    (h : Grammar.ReadsAs text e) (hb : (e.rebind (Table.run policy before).context).2 = .ok notices)
    (ha : ∀ op ∈ after, op.renames = false) :
    (e.rebind (Table.run policy before).context).1.evaluate (Table.run policy (before ++ after)).context =
      e.value fun l => decide ((Table.run policy (before ++ after)).Fires l.pattern) := by
  have hs : (Table.run policy before).SameNames (Table.run policy (before ++ after)) := by
    rw [Table.run_append]
    exact Table.runFrom_sameNames ha
  have hbound := (rebind_boundTo hb).sameNames hs.context
  have hc : (Table.run policy (before ++ after)).Consistent := Table.run_consistent policy _
  rw [evaluate_eq_value, ← value_rebind fun p => decide ((Table.run policy (before ++ after)).Fires p)]
  exact value_congr fun l hl => Table.passes_eq_fires hc (hbound l hl) (level_of_mem_rebind h hl)

theorem evaluate_rebind_eq_value {text : String} {policy : Policy} {before : List Table.Op}
    (hp : Expr.parse text = .ok e) (hb : (e.rebind (Table.run policy before).context).2 = .ok notices) :
    (∃! tree, Grammar.ReadsAs text tree) ∧
    (∀ after, (∀ op ∈ after, op.renames = false) → ∀ tree, Grammar.ReadsAs text tree →
      (e.rebind (Table.run policy before).context).1.evaluate (Table.run policy (before ++ after)).context =
        tree.value fun l => decide ((Table.run policy (before ++ after)).Fires l.pattern)) ∧
    ∀ policy' before' notices', (e.rebind (Table.run policy' before').context).2 = .ok notices' →
      ∀ after after', (∀ op ∈ after, op.renames = false) → (∀ op ∈ after', op.renames = false) →
        (Table.run policy (before ++ after)).SameEvent (Table.run policy' (before' ++ after')) →
        (e.rebind (Table.run policy before).context).1.evaluate (Table.run policy (before ++ after)).context =
          (e.rebind (Table.run policy' before').context).1.evaluate
            (Table.run policy' (before' ++ after')).context := by
  have hr := Grammar.parse_eq_ok_iff.mp hp
  have hu : ∀ tree, Grammar.ReadsAs text tree → tree = e := by
    intro tree ht
    have hp' := Grammar.parse_eq_ok_iff.mpr ht
    rw [hp] at hp'
    exact (Except.ok.inj hp').symm
  refine ⟨⟨e, hr, hu⟩, ?_, ?_⟩
  · intro after ha tree ht
    rw [hu tree ht]
    exact evaluate_rebind_eq hr hb ha
  · intro policy' before' notices' hb' after after' ha ha' he
    rw [evaluate_rebind_eq hr hb ha, evaluate_rebind_eq hr hb' ha']
    simp only [he.fires]

end

theorem evaluate_rebind_seed_and_not_path :
    ∃ e, Expr.parse "L1_Mu? AND NOT HLT_*" = .ok e ∧
      (e.rebind (Table.run .strict [.setNames .path ["HLT_x"], .setNames .seed ["L1_E", "L1_Mu3"]]).context).2 =
        .ok [] ∧
      (e.rebind (Table.run .strict
        [.setNames .path ["HLT_x"], .setNames .seed ["L1_E", "L1_Mu3"]]).context).1.evaluate
          (Table.run .strict ([.setNames .path ["HLT_x"], .setNames .seed ["L1_E", "L1_Mu3"]] ++
            [.setResults .seed [false, true]])).context = true ∧
      (e.rebind (Table.run .lenient
        [.setNames .seed ["L1_Mu3", "L1_E"], .setNames .path ["HLT_x"]]).context).1.evaluate
          (Table.run .lenient ([.setNames .seed ["L1_Mu3", "L1_E"], .setNames .path ["HLT_x"]] ++
            [.setPassed .seed "L1_Mu3" true])).context = true := by
  have hp : Expr.parse "L1_Mu? AND NOT HLT_*" =
      .ok (.and (.leaf (.ofName "L1_Mu?")) (.not (.leaf (.ofName "HLT_*")))) := by cbv
  have hb : ((Expr.and (.leaf (.ofName "L1_Mu?")) (.not (.leaf (.ofName "HLT_*")))).rebind
      (Table.run .strict [.setNames .path ["HLT_x"], .setNames .seed ["L1_E", "L1_Mu3"]]).context).2 =
        .ok [] := rfl
  have hs : (Table.run .strict ([.setNames .path ["HLT_x"], .setNames .seed ["L1_E", "L1_Mu3"]] ++
      [.setResults .seed [false, true]])).SameEvent
        (Table.run .lenient ([.setNames .seed ["L1_Mu3", "L1_E"], .setNames .path ["HLT_x"]] ++
          [.setPassed .seed "L1_Mu3" true])) := by
    intro level
    cases level with
    | path => exact ⟨rfl, fun name => Iff.rfl⟩
    | seed =>
      refine ⟨rfl, fun name => ?_⟩
      change (name, true) ∈ [("L1_E", false), ("L1_Mu3", true)] ↔
        (name, true) ∈ [("L1_Mu3", true), ("L1_E", false)]
      simp
  obtain ⟨-, hm, hi⟩ := evaluate_rebind_eq_value hp hb
  have hv := hm [.setResults .seed [false, true]] (by decide) _ (Grammar.parse_eq_ok_iff.mp hp)
  have he := hi .lenient [.setNames .seed ["L1_Mu3", "L1_E"], .setNames .path ["HLT_x"]] [] rfl
    [.setResults .seed [false, true]] [.setPassed .seed "L1_Mu3" true] (by decide) (by decide) hs
  refine ⟨_, hp, hb, hv.trans ?_, he.symm.trans (hv.trans ?_)⟩
  · rfl
  · rfl

end Expr

end TriggerLogic
