import TriggerLogic.Proofs.Passes

/-! What a filter does is settled by the latest of its calls that bound the conditions. -/

namespace TriggerLogic

namespace Filter

def Works (f : Filter) (ctx : Context) : Prop :=
  ¬ (f.configured = true ∧ ctx.updated = false)

instance (f : Filter) (ctx : Context) : Decidable (f.Works ctx) :=
  inferInstanceAs (Decidable (¬ _))

variable {f : Filter} {ctx : Context}

lemma view_sameNames : (f.view ctx).SameNames ctx := by
  cases hp : f.config.policy <;> simp only [view, hp] <;> exact ⟨rfl, rfl⟩

lemma accept_of_not_configured (h : f.configured = false) (event : Context) : f.accept event = false := by
  simp [accept, judge, h]

lemma view_eq_elim (f : Filter) (ctx : Context) :
    f.view ctx = f.config.policy.elim ctx fun policy => ctx.withPolicy policy := by
  rw [view]
  cases f.config.policy <;> rfl

lemma ofConfig_eq_ok_iff {config : FilterConfig} : ofConfig config = .ok f ↔
    config.conditions ≠ [] ∧ ∃ conditions, config.conditions.mapM Condition.parse = .ok conditions ∧
      f = { config, conditions } := by
  rw [ofConfig, FilterConfig.validate]
  by_cases he : config.conditions = []
  · simp [he]
  · rw [if_neg (by simpa using he)]
    cases hm : config.conditions.mapM Condition.parse <;> simp [he, eq_comm]

lemma configured_of_ofConfig {config : FilterConfig} (h : ofConfig config = .ok f) :
    f.configured = false := by
  obtain ⟨-, conditions, -, rfl⟩ := ofConfig_eq_ok_iff.mp h
  rfl

lemma config_of_ofConfig {config : FilterConfig} (h : ofConfig config = .ok f) : f.config = config := by
  obtain ⟨-, conditions, -, rfl⟩ := ofConfig_eq_ok_iff.mp h
  rfl

inductive Call where
  | configure (ctx : Context)
  | accept (ctx : Context)

inductive Answer where
  | configured (outcome : Except BindError (List Notice))
  | judged (verdict : Verdict)

section

variable [RegexLibrary]

lemma configure_of_skip (hc : f.configured = true) (hu : ctx.updated = false) :
    f.configure ctx = (f, .ok []) := by
  simp [configure, hc, hu]

lemma configure_of_work (hw : f.Works ctx) :
    f.configure ctx = ({ f with
      conditions := (Condition.rebindAll (f.view ctx) f.conditions).1
      configured := (Condition.rebindAll (f.view ctx) f.conditions).2.isOk },
      (Condition.rebindAll (f.view ctx) f.conditions).2) := by
  rw [configure, if_neg]
  simpa [Works] using hw

lemma configure_configured : (f.configure ctx).1.configured = (f.configure ctx).2.isOk := by
  by_cases hs : f.configured = true ∧ ctx.updated = false
  · rw [configure_of_skip hs.1 hs.2]
    exact hs.1
  · rw [configure_of_work hs]

lemma configure_boundTo (hw : f.Works ctx)
    (hc : (f.configure ctx).1.configured = true) :
    Condition.BoundTo ctx (f.configure ctx).1.conditions := by
  rw [configure_of_work hw] at hc ⊢
  cases ho : (Condition.rebindAll (f.view ctx) f.conditions).2 with
  | error e => simp [ho, Except.isOk, Except.toBool] at hc
  | ok notices => exact (Condition.rebindAll_boundTo ho).sameNames view_sameNames

def step (f : Filter) : Call → Filter
  | .configure ctx => (f.configure ctx).1
  | .accept _ => f

def answer (f : Filter) : Call → Answer
  | .configure ctx => .configured (f.configure ctx).2
  | .accept ctx => .judged (f.judge ctx)

/-- The filter after the calls of `past`, the latest of which stands first. -/
def after (f : Filter) : List Call → Filter
  | [] => f
  | call :: past => (f.after past).step call

/-- The context of the latest effective configure of `past`, with its outcome. -/
def latest (f : Filter) : List Call → Option (Context × Except BindError (List Notice))
  | [] => none
  | .accept _ :: past => f.latest past
  | .configure ctx :: past =>
    if (f.after past).Works ctx then some (ctx, ((f.after past).configure ctx).2) else f.latest past

variable {past : List Call} {outcome : Except BindError (List Notice)}

lemma step_config_reset (call : Call) :
    (f.step call).config = f.config ∧
      (f.step call).conditions.map (Condition.mapLeaves Leaf.reset) =
        f.conditions.map (Condition.mapLeaves Leaf.reset) := by
  cases call with
  | accept ctx => exact ⟨rfl, rfl⟩
  | configure ctx =>
    by_cases hw : f.Works ctx
    · rw [step, configure_of_work hw]
      exact ⟨rfl, Condition.rebindAll_reset⟩
    · obtain ⟨hc, hu⟩ := not_not.mp hw
      rw [step, configure_of_skip hc hu]
      exact ⟨rfl, rfl⟩

lemma after_config_reset (past : List Call) :
    (f.after past).config = f.config ∧
      (f.after past).conditions.map (Condition.mapLeaves Leaf.reset) =
        f.conditions.map (Condition.mapLeaves Leaf.reset) := by
  induction past with
  | nil => exact ⟨rfl, rfl⟩
  | cons call past ih =>
    obtain ⟨hc, hr⟩ := (f.after past).step_config_reset call
    exact ⟨hc.trans ih.1, hr.trans ih.2⟩

lemma configure_eq_of_reset {g : Filter} (hf : f.Works ctx) (hg : g.Works ctx) (hc : f.config = g.config)
    (hr : f.conditions.map (Condition.mapLeaves Leaf.reset) =
      g.conditions.map (Condition.mapLeaves Leaf.reset)) :
    (f.configure ctx).2 = (g.configure ctx).2 ∧
      ∀ notices, (f.configure ctx).2 = .ok notices → (f.configure ctx).1 = (g.configure ctx).1 := by
  have hv : f.view ctx = g.view ctx := by rw [view, view, hc]
  obtain ⟨ho, hs⟩ := Condition.rebindAll_congr (g.view ctx) hr
  rw [configure_of_work hf, configure_of_work hg, hv]
  refine ⟨ho, fun notices hok => ?_⟩
  simp only [mk.injEq]
  exact ⟨hc, hs notices hok, by rw [ho]⟩

lemma after_of_latest_none (hf : f.configured = false) (h : f.latest past = none) : f.after past = f := by
  induction past with
  | nil => rfl
  | cons call past ih =>
    cases call with
    | accept ctx => exact ih h
    | configure ctx =>
      rw [latest] at h
      split at h
      · cases h
      · rename_i hw
        simp [ih h, Works, hf] at hw

lemma after_of_latest (hf : f.configured = false) (h : f.latest past = some (ctx, outcome)) :
    outcome = (f.configure ctx).2 ∧ (f.after past).configured = outcome.isOk ∧
      ∀ notices, outcome = .ok notices → f.after past = (f.configure ctx).1 := by
  induction past with
  | nil => cases h
  | cons call past ih =>
    cases call with
    | accept ctx' => exact ih h
    | configure ctx' =>
      rw [latest] at h
      rw [after, step]
      split at h
      · rename_i hw
        cases h
        -- Earlier calls changed bindings only, and an effective call clears these.
        obtain ⟨hc, hr⟩ := f.after_config_reset past
        obtain ⟨ho, hs⟩ := configure_eq_of_reset hw (by simp [Works, hf]) hc hr
        exact ⟨ho, configure_configured, hs⟩
      · rename_i hw
        obtain ⟨hc, hu⟩ := not_not.mp hw
        rw [configure_of_skip hc hu]
        exact ih h

lemma configured_iff_latest (hf : f.configured = false) :
    (f.after past).configured = true ↔ ∃ ctx notices, f.latest past = some (ctx, .ok notices) := by
  constructor
  · intro hc
    rcases hl : f.latest past with _ | ⟨ctx, err | notices⟩
    · rw [after_of_latest_none hf hl, hf] at hc
      cases hc
    · rw [(after_of_latest hf hl).2.1] at hc
      cases hc
    · exact ⟨ctx, notices, rfl⟩
  · rintro ⟨ctx, notices, hl⟩
    exact (after_of_latest hf hl).2.1

theorem remembers_latest {config : FilterConfig} {fresh : Filter} (h : ofConfig config = .ok fresh)
    (past : List Call) :
    (∀ ctx, ¬ (fresh.after past).Works ctx →
      (fresh.after past).configure ctx = (fresh.after past, .ok [])) ∧
    ((fresh.after past).configured = true ↔
      ∃ ctx notices, fresh.latest past = some (ctx, .ok notices)) ∧
    ((fresh.after past).configured = false → ∀ event, (fresh.after past).accept event = false) ∧
    ∀ ctx outcome, fresh.latest past = some (ctx, outcome) →
      outcome = (Condition.rebindAll (config.policy.elim ctx fun policy => ctx.withPolicy policy)
        fresh.conditions).2 ∧
      ((fresh.after past).configured = true →
        (∀ c ∈ (fresh.after past).conditions, c.root.isBound = true) ∧
        (fresh.after past).conditions = (Condition.rebindAll
          (config.policy.elim ctx fun policy => ctx.withPolicy policy) fresh.conditions).1 ∧
        (fresh.after past).conditions = (fresh.configure ctx).1.conditions ∧
        ∀ event, (fresh.after past).accept event = (fresh.configure ctx).1.accept event) := by
  have hf := configured_of_ofConfig h
  refine ⟨?_, configured_iff_latest hf, accept_of_not_configured, ?_⟩
  · intro ctx hw
    obtain ⟨hc, hu⟩ := not_not.mp hw
    exact configure_of_skip hc hu
  · intro ctx outcome hl
    obtain ⟨ho, -, hs⟩ := after_of_latest hf hl
    have hw : fresh.Works ctx := by simp [Works, hf]
    have hv := fresh.view_eq_elim ctx
    rw [config_of_ofConfig h] at hv
    rw [← hv]
    refine ⟨ho.trans (by rw [configure_of_work hw]), fun hc => ?_⟩
    obtain ⟨ctx', notices, hl'⟩ := (configured_iff_latest hf).mp hc
    obtain ⟨rfl, rfl⟩ : ctx = ctx' ∧ outcome = .ok notices := by simpa [hl] using hl'
    have he := hs notices rfl
    refine ⟨?_, by rw [he, configure_of_work hw], by rw [he], fun event => by rw [he]⟩
    rw [he] at hc ⊢
    exact (configure_boundTo hw hc).isBound

end

theorem remembers_latest_after_failure :
    ∃ fresh, ofConfig { conditions := ["A", "L1_B*"] } = .ok fresh ∧
      fresh.latest [.accept (Table.run .strict []).context,
        .configure (Table.run .strict [.setNames .path ["C"], .acknowledge]).context,
        .configure (Table.run .strict [.setNames .path ["C", "A"], .setNames .seed ["L1_B1"]]).context,
        .configure (Table.run .strict [.setNames .path ["A"]]).context] =
        some ((Table.run .strict [.setNames .path ["C", "A"], .setNames .seed ["L1_B1"]]).context, .ok []) ∧
      (fresh.after [.accept (Table.run .strict []).context,
        .configure (Table.run .strict [.setNames .path ["C"], .acknowledge]).context,
        .configure (Table.run .strict [.setNames .path ["C", "A"], .setNames .seed ["L1_B1"]]).context,
        .configure (Table.run .strict [.setNames .path ["A"]]).context]).conditions =
        [⟨"A", .leaf ⟨"A", .path, [⟨"A", 1⟩], true⟩⟩, ⟨"L1_B*", .leaf ⟨"L1_B*", .seed, [⟨"L1_B1", 0⟩], true⟩⟩] := by
  have h : ofConfig { conditions := ["A", "L1_B*"] } =
      .ok ⟨{ conditions := ["A", "L1_B*"] },
        [⟨"A", .leaf (.ofName "A")⟩, ⟨"L1_B*", .leaf (.ofName "L1_B*")⟩], false⟩ := by cbv
  obtain ⟨-, hc, -, hl⟩ := remembers_latest h [.accept (Table.run .strict []).context,
    .configure (Table.run .strict [.setNames .path ["C"], .acknowledge]).context,
    .configure (Table.run .strict [.setNames .path ["C", "A"], .setNames .seed ["L1_B1"]]).context,
    .configure (Table.run .strict [.setNames .path ["A"]]).context]
  obtain ⟨-, hs⟩ := hl (Table.run .strict [.setNames .path ["C", "A"], .setNames .seed ["L1_B1"]]).context
    (.ok []) rfl
  obtain ⟨-, hs, -⟩ := hs (hc.mpr ⟨_, _, rfl⟩)
  exact ⟨_, h, rfl, hs⟩

end Filter

end TriggerLogic
