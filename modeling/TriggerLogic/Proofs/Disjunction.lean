import TriggerLogic.Proofs.Calls
import TriggerLogic.Proofs.Spelling

/-! Conditions in a list are bound and judged like the one tree that joins them by `OR`. After a
failed pass the two hold different bindings, but neither looks at them again. -/

namespace TriggerLogic

namespace Verdict

variable {go : Bool}

lemma followedBy_assoc (u v w : Verdict) :
    (u.followedBy go v).followedBy go w = u.followedBy go (v.followedBy go w) := by
  by_cases hu : u.value = go
  · by_cases hv : v.value = go
    · simp [followedBy, hu, hv]
    · simp [followedBy, hu, hv]
  · simp [followedBy, hu]

lemma followedBy_nothing (v : Verdict) : v.followedBy go ⟨go, []⟩ = v := by
  by_cases hv : v.value = go
  · simp [followedBy, ← hv]
  · simp [followedBy, hv]

end Verdict

namespace Expr

variable {e : Expr} {es : List Expr}

lemma leaves_foldl_or : (es.foldl .or e).leaves = e.leaves ++ es.flatMap leaves := by
  induction es generalizing e with
  | nil => simp
  | cons e' es ih => simp [ih, leaves]

lemma map_foldl_or {f : Expr → Expr} (h : ∀ l r, f (.or l r) = .or (f l) (f r)) :
    f (es.foldl .or e) = (es.map f).foldl .or (f e) := by
  rw [List.foldl_map]
  exact (List.foldl_hom f fun l r => (h l r).symm).symm

lemma mapLeaves_foldl_or (f : Leaf → Leaf) :
    (es.foldl .or e).mapLeaves f = (es.map (mapLeaves f)).foldl .or (e.mapLeaves f) :=
  map_foldl_or fun _ _ => rfl

end Expr

namespace Condition

variable {ctx : Context} {cs : List Condition}

def joined : List Condition → Expr
  | [] => .constant false
  | c :: cs => (cs.map root).foldl .or c.root

lemma leaves_joined : (joined cs).leaves = leaves cs := by
  cases cs with
  | nil => rfl
  | cons c cs => simp [joined, leaves, Expr.leaves_foldl_or, List.flatMap_map]

lemma joined_map_mapLeaves (f : Leaf → Leaf) :
    joined (cs.map (mapLeaves f)) = (joined cs).mapLeaves f := by
  cases cs with
  | nil => rfl
  | cons c cs => simp [joined, mapLeaves, Expr.mapLeaves_foldl_or, Function.comp_def]

lemma judge_foldl_or {e : Expr} :
    ((cs.map root).foldl .or e).judge ctx = (e.judge ctx).followedBy false (judgeAny ctx cs) := by
  induction cs generalizing e with
  | nil => exact (Verdict.followedBy_nothing _).symm
  | cons c cs ih =>
    rw [List.map_cons, List.foldl_cons, ih, Expr.judge, judgeAny, Verdict.followedBy_assoc]

lemma judgeAny_eq_judge_joined : judgeAny ctx cs = (joined cs).judge ctx := by
  cases cs with
  | nil => rfl
  | cons c cs => exact judge_foldl_or.symm

variable [RegexLibrary]

lemma rebindAll_outcome_eq_joined : (rebindAll ctx cs).2 = ((joined cs).rebind ctx).2 := by
  rw [rebindAll_outcome, Expr.rebind_outcome, leaves_joined]

lemma joined_rebindAll_of_ok {notices : List Notice} (h : (rebindAll ctx cs).2 = .ok notices) :
    joined (rebindAll ctx cs).1 = ((joined cs).rebind ctx).1 := by
  rw [rebindAll_of_ok h, joined_map_mapLeaves, Expr.rebind_of_ok (rebindAll_outcome_eq_joined ▸ h)]

end Condition

namespace Filter

variable {f g : Filter} {ctx : Context}

/-- The filters answer alike: while they are not bound, they need to agree only once cleared. -/
structure Lockstep (f g : Filter) : Prop where
  policy : f.config.policy = g.config.policy
  configured : f.configured = g.configured
  reset : (Condition.joined f.conditions).mapLeaves Leaf.reset =
    (Condition.joined g.conditions).mapLeaves Leaf.reset
  bound : f.configured = true → Condition.joined f.conditions = Condition.joined g.conditions

lemma Lockstep.view (h : Lockstep f g) (ctx : Context) : f.view ctx = g.view ctx := by
  rw [view_eq_elim, view_eq_elim, h.policy]

lemma Lockstep.judge (h : Lockstep f g) (ctx : Context) : f.judge ctx = g.judge ctx := by
  rw [Filter.judge, Filter.judge, ← h.configured]
  split
  · rw [Condition.judgeAny_eq_judge_joined, Condition.judgeAny_eq_judge_joined, h.bound ‹_›]
  · rfl

variable [RegexLibrary]

lemma Lockstep.rebind (h : Lockstep f g) (ctx : Context) :
    (Condition.joined f.conditions).rebind ctx = (Condition.joined g.conditions).rebind ctx := by
  rw [Expr.rebind, Expr.rebind, h.reset]

lemma Lockstep.configure (h : Lockstep f g) (ctx : Context) :
    (f.configure ctx).2 = (g.configure ctx).2 ∧ Lockstep (f.configure ctx).1 (g.configure ctx).1 := by
  by_cases hw : f.Works ctx
  · have hw' : g.Works ctx := by rwa [Works, ← h.configured]
    have ho : (Condition.rebindAll (f.view ctx) f.conditions).2 =
        (Condition.rebindAll (g.view ctx) g.conditions).2 := by
      rw [Condition.rebindAll_outcome_eq_joined, Condition.rebindAll_outcome_eq_joined, h.view, h.rebind]
    rw [configure_of_work hw, configure_of_work hw']
    -- A failed pass stops in the middle of its conditions: the trees agree again once cleared.
    refine ⟨ho, h.policy, congrArg Except.isOk ho, ?_, fun hc => ?_⟩
    · simp only [← Condition.joined_map_mapLeaves, Condition.rebindAll_reset]
      rw [Condition.joined_map_mapLeaves, Condition.joined_map_mapLeaves, h.reset]
    · cases hn : (Condition.rebindAll (f.view ctx) f.conditions).2 with
      | error e => simp [hn, Except.isOk, Except.toBool] at hc
      | ok notices =>
        simp only
        rw [Condition.joined_rebindAll_of_ok hn, Condition.joined_rebindAll_of_ok (ho ▸ hn), h.view, h.rebind]
  · obtain ⟨hc, hu⟩ := not_not.mp hw
    rw [configure_of_skip hc hu, configure_of_skip (h.configured ▸ hc) hu]
    exact ⟨rfl, h⟩

lemma Lockstep.answer (h : Lockstep f g) (call : Call) : f.answer call = g.answer call := by
  cases call with
  | configure ctx => exact congrArg Answer.configured (h.configure ctx).1
  | accept ctx => exact congrArg Answer.judged (h.judge ctx)

lemma Lockstep.step (h : Lockstep f g) (call : Call) : Lockstep (f.step call) (g.step call) := by
  cases call with
  | configure ctx => exact (h.configure ctx).2
  | accept ctx => exact h

lemma Lockstep.after (h : Lockstep f g) (past : List Call) : Lockstep (f.after past) (g.after past) := by
  induction past with
  | nil => exact h
  | cons call past ih => exact ih.step call

end Filter

namespace Condition

variable {texts : List String} {cs : List Condition}

lemma mapM_parse_eq_ok_iff :
    texts.mapM parse = .ok cs ↔ List.Forall₂ (fun text c => parse text = .ok c) texts cs := by
  induction texts generalizing cs with
  | nil => cases cs <;> simp [pure, Except.pure]
  | cons text texts ih =>
    rw [List.mapM_cons]
    cases hc : parse text with
    | error e => cases cs <;> simp [bind, Except.bind, hc]
    | ok c =>
      cases hs : texts.mapM parse <;> cases cs <;> simp [bind, Except.bind, pure, Except.pure, ← ih, hc, hs]

lemma exists_forall₂_parse (hp : ∀ text ∈ texts, ∃ e, Expr.parse text = .ok e) :
    ∃ cs, List.Forall₂ (fun text c => parse text = .ok c) texts cs := by
  induction texts with
  | nil => exact ⟨[], .nil⟩
  | cons text texts ih =>
    obtain ⟨⟨e, he⟩, ht⟩ := List.forall_mem_cons.mp hp
    obtain ⟨cs, hcs⟩ := ih ht
    exact ⟨⟨text, e⟩ :: cs, .cons (by simp [parse, he]) hcs⟩

lemma parse_root {text : String} {c : Condition} (h : parse text = .ok c) : Expr.parse text = .ok c.root := by
  rw [parse] at h
  split at h
  · cases h
    assumption
  · cases h

def disjunction (texts : List String) : String :=
  " OR ".intercalate (texts.map fun text => "(" ++ text ++ ")")

lemma parse_disjunction (hn : texts ≠ []) (hp : List.Forall₂ (fun text c => parse text = .ok c) texts cs) :
    Expr.parse (disjunction texts) = .ok (joined cs) := by
  have hs : ∀ {text c}, parse text = .ok c → Grammar.Spells .conjunction ("(" ++ text ++ ")") c.root :=
    fun h => (Grammar.spells_of_parse (parse_root h)).group.unary.conjunction
  apply Grammar.parse_of_spells
  cases hp with
  | nil => exact absurd rfl hn
  | cons hc hcs =>
    rw [disjunction, List.map_cons, Grammar.intercalate_cons]
    refine (hs hc).disjunction.or_foldl ?_
    rw [List.forall₂_map_left_iff, List.forall₂_map_right_iff]
    exact hcs.imp fun _ _ => hs

end Condition

namespace Filter

theorem answers_disjunction [RegexLibrary] {texts : List String} (hn : texts ≠ [])
    (hp : ∀ text ∈ texts, ∃ e, Expr.parse text = .ok e) (policy : Option Policy) :
    ∃ f g, ofConfig { conditions := texts, policy } = .ok f ∧
      ofConfig { conditions := [Condition.disjunction texts], policy } = .ok g ∧
      ∀ past, (f.after past).configured = (g.after past).configured ∧
        ∀ call, (f.after past).answer call = (g.after past).answer call := by
  obtain ⟨cs, hcs⟩ := Condition.exists_forall₂_parse hp
  have hd : Condition.parse (Condition.disjunction texts) =
      .ok ⟨Condition.disjunction texts, Condition.joined cs⟩ := by
    rw [Condition.parse, Condition.parse_disjunction hn hcs]
  refine ⟨_, _, ofConfig_eq_ok_iff.mpr ⟨hn, cs, Condition.mapM_parse_eq_ok_iff.mpr hcs, rfl⟩,
    ofConfig_eq_ok_iff.mpr ⟨by simp, _, Condition.mapM_parse_eq_ok_iff.mpr (.cons hd .nil), rfl⟩,
    fun past => ?_⟩
  have hl : Lockstep { config := { conditions := texts, policy }, conditions := cs }
      { config := { conditions := [Condition.disjunction texts], policy },
        conditions := [⟨Condition.disjunction texts, Condition.joined cs⟩] } :=
    ⟨rfl, rfl, rfl, fun _ => rfl⟩
  exact ⟨(hl.after past).configured, (hl.after past).answer⟩

theorem answers_disjunction_two :
    (∀ text ∈ ["NOT B OR C", "L1_*"], ∃ e, Expr.parse text = .ok e) ∧
    ∃ f g names event, ofConfig { conditions := ["NOT B OR C", "L1_*"], policy := some .lenient } = .ok f ∧
      ofConfig { conditions := ["(NOT B OR C) OR (L1_*)"], policy := some .lenient } = .ok g ∧
      names = (Table.run .strict [.setNames .path ["B"], .setNames .seed ["L1_X", "L1_Y"]]).context ∧
      event = (Table.run .strict [.setNames .path ["B"], .setNames .seed ["L1_X", "L1_Y"],
        .setResults .path [true], .setPassed .seed "L1_Y" true]).context ∧
      g.answer (.configure names) = .configured (.ok [⟨"C", .path, .notFound, ["B"]⟩]) ∧
      (g.after [.configure names]).answer (.accept event) = .judged ⟨true, [.hasSource .path, .passed .path 0,
        .hasSource .path, .hasSource .seed, .passed .seed 0, .passed .seed 1]⟩ ∧
      ∀ past, (f.after past).configured = (g.after past).configured ∧
        ∀ call, (f.after past).answer call = (g.after past).answer call := by
  have hb : Expr.parse "NOT B OR C" = .ok (.or (.not (.leaf (.ofName "B"))) (.leaf (.ofName "C"))) := by cbv
  have hl : Expr.parse "L1_*" = .ok (.leaf (.ofName "L1_*")) := by cbv
  have hp : ∀ text ∈ ["NOT B OR C", "L1_*"], ∃ e, Expr.parse text = .ok e := by
    simp only [List.forall_mem_cons]
    exact ⟨⟨_, hb⟩, ⟨_, hl⟩, by simp⟩
  have hc : List.Forall₂ (fun text c => Condition.parse text = .ok c) ["NOT B OR C", "L1_*"]
      [⟨"NOT B OR C", .or (.not (.leaf (.ofName "B"))) (.leaf (.ofName "C"))⟩,
        ⟨"L1_*", .leaf (.ofName "L1_*")⟩] :=
    .cons (by rw [Condition.parse, hb]) (.cons (by rw [Condition.parse, hl]) .nil)
  obtain ⟨f, g, hf, hg, ha⟩ := answers_disjunction (by simp) hp (some .lenient)
  obtain ⟨-, cs, hcs, rfl⟩ := ofConfig_eq_ok_iff.mp hf
  obtain rfl := Except.ok.inj (hcs.symm.trans (Condition.mapM_parse_eq_ok_iff.mpr hc))
  refine ⟨hp, _, g, _, _, hf, hg, rfl, rfl, ?_, ?_, ha⟩
  · exact ((ha []).2 _).symm.trans (by rfl)
  · exact ((ha [_]).2 _).symm.trans (by rfl)

end Filter

end TriggerLogic
