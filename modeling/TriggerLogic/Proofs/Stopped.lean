import TriggerLogic.Proofs.Disjunction
import TriggerLogic.Proofs.Policies

/-! A pass over a tree clears it before it binds the first leaf. A filter clears each condition only
when it comes to it, so those behind the one that stops the call keep what they were bound to. -/

namespace TriggerLogic

variable {ctx : Context} {err : BindError}

lemma pass_of_error {α : Type} {f : α → α × Except BindError (List Notice)}
    {pass : List α → List α × Except BindError (List Notice)} (hnil : pass [] = ([], .ok []))
    (herr : ∀ a as e, (f a).2 = .error e → pass (a :: as) = ((f a).1 :: as, .error e))
    (hok : ∀ a as notices, (f a).2 = .ok notices →
      pass (a :: as) = ((f a).1 :: (pass as).1, (pass as).2.map (notices ++ ·)))
    {as : List α} (h : (pass as).2 = .error err) :
    ∃ before a after, as = before ++ a :: after ∧
      (∀ b ∈ before, ∃ notices, (f b).2 = .ok notices) ∧ (f a).2 = .error err ∧
      (pass as).1 = before.map (fun b => (f b).1) ++ (f a).1 :: after := by
  induction as with
  | nil => simp [hnil] at h
  | cons a as ih =>
    cases hf : (f a).2 with
    | error e =>
      rw [herr a as e hf] at h ⊢
      exact ⟨[], a, as, rfl, by simp, hf.trans h, rfl⟩
    | ok notices =>
      rw [hok a as notices hf] at h ⊢
      cases hp : (pass as).2 with
      | ok more => simp [hp, Except.map] at h
      | error e =>
        obtain rfl : e = err := by simpa [hp, Except.map] using h
        obtain ⟨before, b, after, rfl, hb, he, hs⟩ := ih hp
        exact ⟨a :: before, b, after, rfl, List.forall_mem_cons.mpr ⟨⟨notices, hf⟩, hb⟩, he, by simp [hs]⟩

namespace Leaf

variable [RegexLibrary] {l : Leaf}

/-- The leaf holds nothing, or what it resolves to in the context. -/
def Current (ctx : Context) (l : Leaf) : Prop :=
  l.bindings = [] ∨ l.BoundTo ctx

lemma BoundTo.current (h : l.BoundTo ctx) : l.Current ctx :=
  .inr h

lemma settle_of_ok {notices : List Notice} (h : (l.settle ctx).2 = .ok notices) :
    ∃ r, l.resolve ctx = .ok r ∧ (l.settle ctx).1 = l.bind r.bindings ∧
      (ctx.policy = .strict → r.bindings ≠ []) := by
  cases hr : l.resolve ctx with
  | error e => simp [settle, hr] at h
  | ok r =>
    refine ⟨r, rfl, by simp [settle, hr], fun hp hb => ?_⟩
    have hn := notice_of_resolve hr
    simp [settle, hr, hn, hb, hp, Policy.isStrict] at h

lemma compile_of_resolve (hr : l.resolve ctx = .error err) : Glob.compile l.pattern = .error err := by
  rw [resolve] at hr
  split at hr
  · split at hr
    · rename_i hc
      cases hr
      exact hc
    · cases hr
  · cases hr

lemma compiles_of_resolve {r : Resolution} (hr : l.resolve ctx = .ok r) : l.Compiles := by
  intro hg
  rw [resolve, if_pos hg] at hr
  cases hc : Glob.compile l.pattern with
  | error e => simp [hc] at hr
  | ok g => rfl

lemma settle_of_error (h : (l.settle ctx).2 = .error err) :
    (∃ n, err = .unresolved n ∧ ctx.policy = .strict ∧ l.resolve ctx = .ok ⟨[], some n⟩ ∧
      (l.settle ctx).1 = l.bind []) ∨
    (∃ refusal, err = .invalidPattern refusal ∧ refusal.pattern = l.pattern ∧
      RegexLibrary.refusal (Glob.ofPattern l.pattern).regexText = some refusal.message) ∧
      ¬ l.Compiles ∧ (l.settle ctx).1 = l := by
  cases hr : l.resolve ctx with
  | error e =>
    obtain rfl : e = err := by simpa [settle, hr] using h
    refine .inr ⟨?_, fun hc => ?_, by simp [settle, hr]⟩
    · exact Glob.error_of_compile (compile_of_resolve hr)
    · obtain ⟨r, hok⟩ : ∃ r, l.resolve ctx = .ok r := resolve_of_compiles hc
      simp [hr] at hok
  | ok r =>
    obtain ⟨bindings, _ | n⟩ := r
    · simp [settle, hr] at h
    · have hn := notice_of_resolve hr
      have hb : bindings = [] := by
        by_contra hb
        simp [hb] at hn
      subst hb
      cases hp : ctx.policy with
      | strict =>
        refine .inl ⟨n, ?_, rfl, rfl, by simp [settle, hr]⟩
        simpa [settle, hr, hp, Policy.isStrict, eq_comm] using h
      | lenient => simp [settle, hr, hp, Policy.isStrict] at h

lemma settleAll_of_error {ls : List Leaf} (h : (settleAll ctx ls).2 = .error err) :
    ∃ before l after, ls = before ++ l :: after ∧
      (∀ m ∈ before, ∃ notices, (m.settle ctx).2 = .ok notices) ∧ (l.settle ctx).2 = .error err ∧
      (settleAll ctx ls).1 = before.map (fun m => (m.settle ctx).1) ++ (l.settle ctx).1 :: after := by
  apply pass_of_error rfl _ _ h
  · intro l ls e he
    simp only [settleAll]
    split <;> simp_all
  · intro l ls notices hok
    simp only [settleAll]
    split <;> simp_all

end Leaf

namespace Expr

section

variable [RegexLibrary] {e : Expr}

lemma leaves_rebind : (e.rebind ctx).1.leaves = (Leaf.settleAll ctx (e.leaves.map Leaf.reset)).1 := by
  rw [← leaves_mapLeaves, ← settle_leaves_outcome]
  rfl

lemma rebind_of_error (h : (e.rebind ctx).2 = .error err) :
    ∃ before l after, e.leaves = before ++ l :: after ∧
      (∀ m ∈ before, ∃ notices, (m.reset.settle ctx).2 = .ok notices) ∧
      (l.reset.settle ctx).2 = .error err ∧
      (e.rebind ctx).1.leaves =
        before.map (Leaf.rebind ctx) ++ l.rebind ctx :: after.map Leaf.reset := by
  rw [rebind_outcome] at h
  obtain ⟨_, _, _, hs, hb, he, hl⟩ := Leaf.settleAll_of_error h
  obtain ⟨before, _, hls, rfl, hrest⟩ := List.map_eq_append_iff.mp hs
  obtain ⟨l, after, rfl, rfl, rfl⟩ := List.map_eq_cons_iff.mp hrest
  refine ⟨before, l, after, hls, fun m hm => hb m.reset (List.mem_map_of_mem hm), he, ?_⟩
  rw [leaves_rebind, hl, List.map_map]
  rfl

lemma rebind_current : ∀ l ∈ (e.rebind ctx).1.leaves, l.Current ctx := by
  cases h : (e.rebind ctx).2 with
  | ok notices => exact fun l hl => (rebind_boundTo h l hl).current
  | error err =>
    obtain ⟨before, l, after, -, hb, he, hl⟩ := rebind_of_error h
    rw [hl]
    simp only [List.forall_mem_append, List.forall_mem_cons, List.forall_mem_map]
    refine ⟨fun m hm => ?_, ?_, fun m _ => .inl rfl⟩
    · obtain ⟨notices, hok⟩ := hb m hm
      exact (Leaf.settle_boundTo hok).current
    · obtain ⟨n, -, -, -, hs⟩ | ⟨-, -, hs⟩ := Leaf.settle_of_error he
      · exact .inl (congrArg Leaf.bindings hs)
      · exact .inl (congrArg Leaf.bindings hs)

theorem rebind_stopped (h : (e.rebind ctx).2 = .error err) :
    ∃ before l after l', e.leaves = before ++ l :: after ∧
      (e.rebind ctx).1.leaves = before.map (Leaf.rebind ctx) ++ l' :: after.map Leaf.reset ∧
      (e.rebind ctx).1.mapLeaves Leaf.reset = e.mapLeaves Leaf.reset ∧
      (∀ m ∈ before, ∃ r, m.resolve ctx = .ok r ∧ m.rebind ctx = m.bind r.bindings ∧
        (ctx.policy = .strict → r.bindings ≠ [])) ∧
      (∀ n, err = .unresolved n → ctx.policy = .strict ∧ l.resolve ctx = .ok ⟨[], some n⟩ ∧
        (∀ m ∈ before, m.unresolved ctx = false) ∧ l' = l.bind [] ∧
        ((e.rebind ctx).1.isBound = true ↔ after = [])) ∧
      (∀ refusal, err = .invalidPattern refusal → refusal.pattern = l.pattern ∧
        RegexLibrary.refusal (Glob.ofPattern l.pattern).regexText = some refusal.message ∧
        ¬ l.Compiles ∧ (∀ m ∈ before, m.Compiles) ∧ l' = l.reset) ∧
      ∀ m ∈ (e.rebind ctx).1.leaves, m.Current ctx := by
  obtain ⟨before, l, after, hls, hb, he, hl⟩ := rebind_of_error h
  have hr : ∀ m ∈ before, ∃ r, m.resolve ctx = .ok r ∧ m.rebind ctx = m.bind r.bindings ∧
      (ctx.policy = .strict → r.bindings ≠ []) := by
    intro m hm
    obtain ⟨notices, hok⟩ := hb m hm
    exact Leaf.settle_of_ok hok
  refine ⟨before, l, after, l.rebind ctx, hls, hl, rebind_reset, hr, ?_, ?_, rebind_current⟩
  · rintro n rfl
    obtain ⟨n, hn, hp, hl', hs⟩ | ⟨hn, -⟩ := Leaf.settle_of_error he
    · cases hn
      refine ⟨hp, hl', fun m hm => ?_, hs, ?_⟩
      · obtain ⟨r, hm, -, hne⟩ := hr m hm
        simp [Leaf.unresolved, hm, hne hp]
      · have hb' : ∀ m ∈ before, (m.rebind ctx).bound = true := by
          intro m hm
          obtain ⟨r, -, hm, -⟩ := hr m hm
          exact congrArg Leaf.bound hm
        have hs' : (l.rebind ctx).bound = true := congrArg Leaf.bound hs
        rw [isBound, hl, List.all_append, List.all_cons, hs', List.all_map, List.all_map]
        cases after with
        | nil => simpa using hb'
        | cons m after => simp [Leaf.reset]
    · obtain ⟨refusal, hn, -⟩ := hn
      cases hn
  · rintro refusal rfl
    obtain ⟨n, hn, -⟩ | ⟨⟨refusal, hn, hp, hm⟩, hc, hs⟩ := Leaf.settle_of_error he
    · cases hn
    · cases hn
      refine ⟨hp, hm, hc, fun m hm => ?_, hs⟩
      obtain ⟨r, hm, -⟩ := hr m hm
      exact Leaf.compiles_of_resolve hm

end

theorem rebind_stopped_before_older_binding :
    ∃ (e : Expr) (ctx : Context),
      e = .or (.and (.leaf ⟨"A", .path, [⟨"A", 0⟩], true⟩) (.leaf ⟨"B", .path, [⟨"B", 1⟩], true⟩))
        (.leaf ⟨"C", .path, [⟨"C", 2⟩], true⟩) ∧
      ctx = (Table.run .strict [.setNames .path ["C", "A"]]).context ∧
      (e.rebind ctx).2 = .error (.unresolved ⟨"B", .path, .notFound, ["C", "A"]⟩) ∧
      (e.rebind ctx).1.leaves = [⟨"A", .path, [⟨"A", 1⟩], true⟩] ++
        ⟨"B", .path, [], true⟩ :: [⟨"C", .path, [], false⟩] ∧
      (e.rebind ctx).1.isBound = false ∧
      ∀ m ∈ (e.rebind ctx).1.leaves, m.Current ctx := by
  let e : Expr := .or (.and (.leaf ⟨"A", .path, [⟨"A", 0⟩], true⟩) (.leaf ⟨"B", .path, [⟨"B", 1⟩], true⟩))
    (.leaf ⟨"C", .path, [⟨"C", 2⟩], true⟩)
  let ctx : Context := (Table.run .strict [.setNames .path ["C", "A"]]).context
  have h : (e.rebind ctx).2 = .error (.unresolved ⟨"B", .path, .notFound, ["C", "A"]⟩) := rfl
  obtain ⟨before, l, after, l', hls, hl, -, -, hu, -, hc⟩ := rebind_stopped h
  obtain ⟨-, hr, hb, rfl, ht⟩ := hu _ rfl
  obtain ⟨rfl, rfl, rfl⟩ : before = [⟨"A", .path, [⟨"A", 0⟩], true⟩] ∧
      l = ⟨"B", .path, [⟨"B", 1⟩], true⟩ ∧ after = [⟨"C", .path, [⟨"C", 2⟩], true⟩] := by
    have hs : e.leaves = [⟨"A", .path, [⟨"A", 0⟩], true⟩, ⟨"B", .path, [⟨"B", 1⟩], true⟩,
        ⟨"C", .path, [⟨"C", 2⟩], true⟩] := rfl
    rw [hs] at hls
    rcases before with _ | ⟨a, _ | ⟨b, before⟩⟩
    · cases hls
      cases hr
    · cases hls
      exact ⟨rfl, rfl, rfl⟩
    · obtain ⟨-, rfl, -⟩ : _ ∧ ⟨"B", .path, [⟨"B", 1⟩], true⟩ = b ∧ _ := by simpa using hls
      cases hb ⟨"B", .path, [⟨"B", 1⟩], true⟩ (by simp)
  exact ⟨e, ctx, rfl, rfl, h, hl, by simpa using ht, hc⟩

end Expr

namespace Condition

variable {cs : List Condition}

lemma bindings_of_parse {texts : List String} (h : texts.mapM parse = .ok cs) :
    ∀ l ∈ leaves cs, l.bindings = [] := by
  have hp : ∀ {text c}, parse text = .ok c → ∀ l ∈ c.root.leaves, l.bindings = [] := by
    intro text c h l hl
    obtain ⟨ts, -, hd⟩ := Grammar.parse_eq_ok_iff.mp (parse_root h)
    rw [hd.leaves] at hl
    obtain ⟨name, -, rfl⟩ := List.mem_map.mp hl
    rfl
  rw [mapM_parse_eq_ok_iff] at h
  induction h with
  | nil => simp [leaves]
  | cons hc _ ih =>
    simp only [leaves, List.flatMap_cons, List.forall_mem_append]
    exact ⟨hp hc, ih⟩

variable [RegexLibrary]

lemma rebindAll_of_error (h : (rebindAll ctx cs).2 = .error err) :
    ∃ before c after, cs = before ++ c :: after ∧
      (∀ d ∈ before, ∃ notices, (d.rebind ctx).2 = .ok notices) ∧ (c.rebind ctx).2 = .error err ∧
      (rebindAll ctx cs).1 = before.map (fun d => (d.rebind ctx).1) ++ (c.rebind ctx).1 :: after := by
  apply pass_of_error rfl _ _ h
  · intro c cs e he
    simp only [rebindAll]
    split <;> simp_all
  · intro c cs notices hok
    simp only [rebindAll]
    split <;> simp_all

def Current (ctx : Context) (cs : List Condition) : Prop :=
  ∀ l ∈ leaves cs, l.Current ctx

lemma current_append {ds : List Condition} : Current ctx (cs ++ ds) ↔ Current ctx cs ∧ Current ctx ds := by
  simp only [Current, leaves, List.flatMap_append, List.forall_mem_append]

lemma current_map_rebind : Current ctx (cs.map fun c => (c.rebind ctx).1) := by
  intro l hl
  obtain ⟨_, hc, hl⟩ := List.mem_flatMap.mp hl
  obtain ⟨c, -, rfl⟩ := List.mem_map.mp hc
  exact Expr.rebind_current l hl

lemma Current.sameNames {ctx' : Context} (h : ctx.SameNames ctx') (hc : Current ctx cs) : Current ctx' cs :=
  fun l hl => (hc l hl).imp id (Leaf.BoundTo.sameNames h)

lemma mem_leaves_rebindAll {l : Leaf} (hl : l ∈ leaves (rebindAll ctx cs).1) :
    l.Current ctx ∨ l ∈ leaves cs := by
  cases h : (rebindAll ctx cs).2 with
  | ok notices =>
    obtain ⟨c, hc, hl⟩ := List.mem_flatMap.mp hl
    exact .inl (rebindAll_boundTo h c hc l hl).current
  | error err =>
    obtain ⟨before, c, after, rfl, -, -, hs⟩ := rebindAll_of_error h
    rw [hs, List.append_cons, leaves, List.flatMap_append, List.mem_append] at hl
    rcases hl with hl | hl
    · have hn : Current ctx ((before ++ [c]).map fun d => (d.rebind ctx).1) := current_map_rebind
      exact .inl (hn l (by simpa [leaves] using hl))
    · refine .inr ?_
      rw [List.append_cons, leaves, List.flatMap_append, List.mem_append]
      exact .inr hl

end Condition

namespace Filter

section

variable [RegexLibrary] {f : Filter}

lemma leaves_after (hf : ∀ l ∈ Condition.leaves f.conditions, l.bindings = []) (past : List Call) :
    ∀ l ∈ Condition.leaves (f.after past).conditions,
      l.bindings = [] ∨ ∃ old, .configure old ∈ past ∧ l.BoundTo old := by
  induction past with
  | nil => exact fun l hl => .inl (hf l hl)
  | cons call past ih =>
    intro l hl
    have hold : l ∈ Condition.leaves (f.after past).conditions →
        l.bindings = [] ∨ ∃ old, .configure old ∈ call :: past ∧ l.BoundTo old :=
      fun hl => (ih l hl).imp id fun ⟨old, ho, hb⟩ => ⟨old, List.mem_cons_of_mem _ ho, hb⟩
    cases call with
    | accept ctx => exact hold hl
    | configure ctx =>
      by_cases hw : (f.after past).Works ctx
      · rw [after, step, configure_of_work hw] at hl
        rcases Condition.mem_leaves_rebindAll hl with (hn | hb) | hl
        · exact .inl hn
        · exact .inr ⟨ctx, List.mem_cons_self, hb.sameNames view_sameNames⟩
        · exact hold hl
      · obtain ⟨hc, hu⟩ := not_not.mp hw
        rw [after, step, configure_of_skip hc hu] at hl
        exact hold hl

theorem configure_stopped {config : FilterConfig} {fresh : Filter} (h : ofConfig config = .ok fresh)
    (past : List Call) (he : ((fresh.after past).configure ctx).2 = .error err) :
    ∃ before c after, (fresh.after past).conditions = before ++ c :: after ∧
      (c.rebind ((fresh.after past).view ctx)).2 = .error err ∧
      ((fresh.after past).configure ctx).1.conditions =
        (before ++ [c]).map (fun d => (d.rebind ((fresh.after past).view ctx)).1) ++ after ∧
      (Condition.Current ctx ((fresh.after past).configure ctx).1.conditions ↔
        Condition.Current ctx after) ∧
      ∀ l ∈ Condition.leaves after, l.bindings = [] ∨ ∃ old, .configure old ∈ past ∧ l.BoundTo old := by
  have hw : (fresh.after past).Works ctx := by
    rintro ⟨hc, hu⟩
    simp [configure_of_skip hc hu] at he
  rw [configure_of_work hw] at he ⊢
  obtain ⟨before, c, after, hs, -, hc, hr⟩ := Condition.rebindAll_of_error he
  have hb : ((fresh.after past).view ctx).SameNames ctx := view_sameNames
  have hf : ∀ l ∈ Condition.leaves fresh.conditions, l.bindings = [] := by
    obtain ⟨-, cs, hm, rfl⟩ := ofConfig_eq_ok_iff.mp h
    exact Condition.bindings_of_parse hm
  refine ⟨before, c, after, hs, hc, by simp [hr], ?_, fun l hl => ?_⟩
  · have hn : Condition.Current ctx
        ((before ++ [c]).map fun d => (d.rebind ((fresh.after past).view ctx)).1) :=
      Condition.current_map_rebind.sameNames hb
    have hr' : (Condition.rebindAll ((fresh.after past).view ctx) (fresh.after past).conditions).1 =
        (before ++ [c]).map (fun d => (d.rebind ((fresh.after past).view ctx)).1) ++ after := by
      simp [hr]
    rw [hr', Condition.current_append]
    exact and_iff_right hn
  · refine leaves_after hf past l ?_
    rw [hs, List.append_cons, Condition.leaves, List.flatMap_append]
    exact List.mem_append_right _ hl

end

theorem configure_stopped_after_success :
    ∃ (fresh : Filter) (ctx old : Context), ofConfig { conditions := ["A", "B", "C"] } = .ok fresh ∧
      ctx = (Table.run .strict [.setNames .path ["C", "A"]]).context ∧
      old = (Table.run .strict [.setNames .path ["A", "B", "C"]]).context ∧
      ((fresh.after [.configure old]).configure ctx).2 =
        .error (.unresolved ⟨"B", .path, .notFound, ["C", "A"]⟩) ∧
      (fresh.after [.configure old]).conditions = [⟨"A", .leaf ⟨"A", .path, [⟨"A", 0⟩], true⟩⟩] ++
        ⟨"B", .leaf ⟨"B", .path, [⟨"B", 1⟩], true⟩⟩ :: [⟨"C", .leaf ⟨"C", .path, [⟨"C", 2⟩], true⟩⟩] ∧
      ((fresh.after [.configure old]).configure ctx).1.conditions =
        [⟨"A", .leaf ⟨"A", .path, [⟨"A", 1⟩], true⟩⟩, ⟨"B", .leaf ⟨"B", .path, [], true⟩⟩] ++
          [⟨"C", .leaf ⟨"C", .path, [⟨"C", 2⟩], true⟩⟩] ∧
      (Condition.Current ctx ((fresh.after [.configure old]).configure ctx).1.conditions ↔
        Condition.Current ctx [⟨"C", .leaf ⟨"C", .path, [⟨"C", 2⟩], true⟩⟩]) := by
  have h : ofConfig { conditions := ["A", "B", "C"] } =
      .ok ⟨{ conditions := ["A", "B", "C"] },
        [⟨"A", .leaf (.ofName "A")⟩, ⟨"B", .leaf (.ofName "B")⟩, ⟨"C", .leaf (.ofName "C")⟩], false⟩ := by cbv
  have he : ((after ⟨{ conditions := ["A", "B", "C"] },
      [⟨"A", .leaf (.ofName "A")⟩, ⟨"B", .leaf (.ofName "B")⟩, ⟨"C", .leaf (.ofName "C")⟩], false⟩
      [.configure (Table.run .strict [.setNames .path ["A", "B", "C"]]).context]).configure
        (Table.run .strict [.setNames .path ["C", "A"]]).context).2 =
          .error (.unresolved ⟨"B", .path, .notFound, ["C", "A"]⟩) := by rfl
  have hold : (after ⟨{ conditions := ["A", "B", "C"] },
      [⟨"A", .leaf (.ofName "A")⟩, ⟨"B", .leaf (.ofName "B")⟩, ⟨"C", .leaf (.ofName "C")⟩], false⟩
      [.configure (Table.run .strict [.setNames .path ["A", "B", "C"]]).context]).conditions =
        [⟨"A", .leaf ⟨"A", .path, [⟨"A", 0⟩], true⟩⟩, ⟨"B", .leaf ⟨"B", .path, [⟨"B", 1⟩], true⟩⟩,
          ⟨"C", .leaf ⟨"C", .path, [⟨"C", 2⟩], true⟩⟩] := by rfl
  obtain ⟨before, c, behind, hs, hf, hr, hc, -⟩ := configure_stopped h _ he
  obtain ⟨rfl, rfl, rfl⟩ : before = [⟨"A", .leaf ⟨"A", .path, [⟨"A", 0⟩], true⟩⟩] ∧
      c = ⟨"B", .leaf ⟨"B", .path, [⟨"B", 1⟩], true⟩⟩ ∧
      behind = [⟨"C", .leaf ⟨"C", .path, [⟨"C", 2⟩], true⟩⟩] := by
    rw [hold] at hs
    rcases before with _ | ⟨a, _ | ⟨b, _ | ⟨d, before⟩⟩⟩
    · cases hs
      exact absurd hf (by decide)
    · cases hs
      exact ⟨rfl, rfl, rfl⟩
    · cases hs
      exact absurd hf (by decide)
    · simp at hs
  exact ⟨_, _, _, h, rfl, rfl, he, hs, hr.trans (by rfl), hc⟩

theorem configure_stopped_keeps_older_binding :
    ∃ fresh, ofConfig { conditions := ["A", "B"] } = .ok fresh ∧
      ((fresh.after [.configure (Table.run .strict [.setNames .path ["A", "B"]]).context]).configure
        (Table.run .strict [.setNames .path ["C", "D"]]).context).2 =
          .error (.unresolved ⟨"A", .path, .notFound, ["C", "D"]⟩) ∧
      ¬ Condition.Current (Table.run .strict [.setNames .path ["C", "D"]]).context
        ((fresh.after [.configure (Table.run .strict [.setNames .path ["A", "B"]]).context]).configure
          (Table.run .strict [.setNames .path ["C", "D"]]).context).1.conditions ∧
      ((fresh.after [.configure (Table.run .strict [.setNames .path ["A", "B"]]).context]).configure
        (Table.run .strict [.setNames .path ["C", "D"]]).context).1.display = "FALSE OR B" ∧
      ((fresh.after [.configure (Table.run .strict [.setNames .path ["A", "B"]]).context]).configure
        (Table.run .strict [.setNames .path ["C", "D"]]).context).1.conditions.map (fun c =>
          c.root.evaluate (Table.run .strict
            [.setNames .path ["C", "D"], .setResults .path [false, true]]).context) = [false, true] := by
  have h : ofConfig { conditions := ["A", "B"] } =
      .ok ⟨{ conditions := ["A", "B"] },
        [⟨"A", .leaf (.ofName "A")⟩, ⟨"B", .leaf (.ofName "B")⟩], false⟩ := by cbv
  refine ⟨_, h, rfl, fun hc => ?_, by rfl, by rfl⟩
  have hl : (⟨"B", .path, [⟨"B", 1⟩], true⟩ : Leaf).Current
      (Table.run .strict [.setNames .path ["C", "D"]]).context := hc _ (by decide)
  rcases hl with hn | ⟨-, r, hr, hb⟩
  · cases hn
  · cases hr
    cases hb

end Filter

end TriggerLogic
