import TriggerLogic.Proofs.Passes

namespace TriggerLogic

variable {ctx ctx' : Context}

namespace Leaf

variable [RegexLibrary] {l : Leaf} {ls : List Leaf} {r : Resolution} {b : Binding}

def Compiles (l : Leaf) : Prop :=
  l.isGlob = true → (Glob.compile l.pattern).isOk = true

instance : DecidablePred Compiles :=
  fun l => inferInstanceAs (Decidable (l.isGlob = true → (Glob.compile l.pattern).isOk = true))

def unresolved (ctx : Context) (l : Leaf) : Bool :=
  match l.resolve ctx with
  | .ok r => r.bindings.isEmpty
  | .error _ => false

def notice (ctx : Context) (l : Leaf) : Notice where
  pattern := l.pattern
  level := l.level
  kind := l.noticeKind
  knownNames := ctx.knownNames l.level

lemma Compiles.compile_eq (hc : l.Compiles) (hg : l.isGlob = true) :
    Glob.compile l.pattern = .ok (Glob.ofPattern l.pattern) := by
  have hok := hc hg
  cases hg' : Glob.compile l.pattern with
  | error e => simp [hg', Except.isOk, Except.toBool] at hok
  | ok g => rw [Glob.eq_ofPattern_of_compile hg']

lemma resolve_of_compiles (hc : l.Compiles) : ∃ r, l.resolve ctx = .ok r := by
  rw [resolve]
  by_cases hg : l.isGlob = true
  · rw [if_pos hg, hc.compile_eq hg]
    exact ⟨_, rfl⟩
  · rw [if_neg hg]
    exact ⟨_, rfl⟩

lemma notice_of_resolve (hr : l.resolve ctx = .ok r) :
    r.notice = if r.bindings.isEmpty then some (l.notice ctx) else none := by
  obtain ⟨-, rfl⟩ | ⟨-, rfl⟩ := resolve_cases hr
  · rfl
  · rfl

lemma mem_bindings_of_resolve (hr : l.resolve ctx = .ok r) (hb : b ∈ r.bindings) :
    ctx.indexOf l.level b.name = some b.index ∧ Selects l.pattern b.name := by
  rw [Selects]
  obtain ⟨hg, rfl⟩ | ⟨hg, rfl⟩ := resolve_cases hr
  · rw [if_pos (isGlob_iff.mp hg)]
    obtain ⟨name, hm, hn⟩ := List.mem_filterMap.mp hb
    obtain ⟨i, hi, rfl⟩ := Option.map_eq_some_iff.mp hn
    exact ⟨hi, Glob.isMatch_ofPattern_iff.mp (List.mem_filter.mp hm).2⟩
  · rw [if_neg (mt isGlob_iff.mpr hg)]
    cases hi : ctx.indexOf l.level l.pattern with
    | none => simp [resolutionOf, lookup, hi] at hb
    | some i =>
      obtain rfl : b = ⟨l.pattern, i⟩ := by simpa [resolutionOf, lookup, hi] using hb
      exact ⟨hi, rfl⟩

lemma settle_outcome (hc : l.Compiles) :
    (l.settle ctx).2 = if l.unresolved ctx then
      if ctx.policy.isStrict then .error (.unresolved (l.notice ctx)) else .ok [l.notice ctx]
    else .ok [] := by
  obtain ⟨r, hr⟩ : ∃ r, l.resolve ctx = .ok r := resolve_of_compiles hc
  have hn := notice_of_resolve hr
  by_cases hb : r.bindings.isEmpty = true
  · rw [if_pos hb] at hn
    simp [settle, unresolved, hr, hn, hb]
  · rw [if_neg hb] at hn
    simp [settle, unresolved, hr, hn, hb]

def notices (ctx : Context) (ls : List Leaf) : List Notice :=
  (ls.filter (unresolved ctx)).map (notice ctx)

lemma notices_sameNames (h : ctx.SameNames ctx') : notices ctx' ls = notices ctx ls := by
  have hu : unresolved ctx' = unresolved ctx := by
    funext l
    rw [unresolved, unresolved, resolve_sameNames h]
  have hn : notice ctx' = notice ctx := by
    funext l
    rw [notice, notice, h.1]
  rw [notices, notices, hu, hn]

lemma notices_reset : notices ctx (ls.map reset) = notices ctx ls := by
  rw [notices, List.filter_map, List.map_map]
  rfl

lemma settleAll_cons_outcome :
    (settleAll ctx (l :: ls)).2 = (l.settle ctx).2.bind fun ns => (settleAll ctx ls).2.map (ns ++ ·) := by
  rcases hl : l.settle ctx with ⟨l', _ | ns⟩
  · simp [settleAll, hl, Except.bind]
  · simp [settleAll, hl, Except.bind]

lemma settleAll_lenient (hp : ctx.policy = .lenient) (hc : ∀ l ∈ ls, l.Compiles) :
    (settleAll ctx ls).2 = .ok (notices ctx ls) := by
  induction ls with
  | nil => rfl
  | cons l ls ih =>
    obtain ⟨hl, hls⟩ := List.forall_mem_cons.mp hc
    rw [settleAll_cons_outcome, settle_outcome hl, ih hls, hp]
    by_cases hu : l.unresolved ctx = true
    · simp [hu, notices, Policy.isStrict, Except.bind, Except.map]
    · simp [hu, notices, Except.bind, Except.map]

lemma settleAll_strict (hp : ctx.policy = .strict) (hc : ∀ l ∈ ls, l.Compiles) :
    (settleAll ctx ls).2 = (notices ctx ls).head?.elim (.ok []) fun n => .error (.unresolved n) := by
  induction ls with
  | nil => rfl
  | cons l ls ih =>
    obtain ⟨hl, hls⟩ := List.forall_mem_cons.mp hc
    rw [settleAll_cons_outcome, settle_outcome hl, ih hls, hp]
    by_cases hu : l.unresolved ctx = true
    · simp [hu, notices, Policy.isStrict, Except.bind]
    · cases hn : ls.find? (unresolved ctx) <;> simp [hu, hn, notices, Except.bind, Except.map]

lemma rebind_sameNames (h : ctx.SameNames ctx') : rebind ctx' = rebind ctx := by
  funext l
  rw [rebind, rebind, settle, settle, resolve_sameNames h]
  cases l.reset.resolve ctx <;> rfl

end Leaf

namespace Expr

section

variable [RegexLibrary] {e : Expr}

lemma rebind_lenient (hp : ctx.policy = .lenient) (hc : ∀ l ∈ e.leaves, l.Compiles) :
    (e.rebind ctx).2 = .ok (Leaf.notices ctx e.leaves) := by
  have hr : ∀ l ∈ e.leaves.map Leaf.reset, l.Compiles := List.forall_mem_map.mpr hc
  rw [rebind_outcome, Leaf.settleAll_lenient hp hr, Leaf.notices_reset]

lemma rebind_strict (hp : ctx.policy = .strict) (hc : ∀ l ∈ e.leaves, l.Compiles) :
    (e.rebind ctx).2 =
      (Leaf.notices ctx e.leaves).head?.elim (.ok []) fun n => .error (.unresolved n) := by
  have hr : ∀ l ∈ e.leaves.map Leaf.reset, l.Compiles := List.forall_mem_map.mpr hc
  rw [rebind_outcome, Leaf.settleAll_strict hp hr, Leaf.notices_reset]

theorem rebind_by_policy {lenient strict : Context} (hl : lenient.policy = .lenient)
    (hs : strict.policy = .strict) (hn : lenient.SameNames strict) (hc : ∀ l ∈ e.leaves, l.Compiles) :
    (e.rebind lenient).2 = .ok (Leaf.notices lenient e.leaves) ∧
    (e.rebind lenient).1.mapLeaves Leaf.reset = e.mapLeaves Leaf.reset ∧
    (∀ l ∈ (e.rebind lenient).1.leaves, l.BoundTo lenient ∧ ∀ b ∈ l.bindings,
      lenient.indexOf l.level b.name = some b.index ∧ Selects l.pattern b.name) ∧
    (Leaf.notices lenient e.leaves = [] → e.rebind strict = ((e.rebind lenient).1, .ok [])) ∧
    ∀ n more, Leaf.notices lenient e.leaves = n :: more →
      (e.rebind strict).2 = .error (.unresolved n) := by
  have hlen := rebind_lenient hl hc
  have hstr := rebind_strict hs hc
  rw [Leaf.notices_sameNames hn] at hstr
  refine ⟨hlen, rebind_reset, ?_, ?_, ?_⟩
  · intro l hm
    have hb : l.BoundTo lenient := rebind_boundTo hlen l hm
    obtain ⟨-, r, hr, hbs⟩ := id hb
    refine ⟨hb, fun b hm => ?_⟩
    rw [hbs] at hm
    exact Leaf.mem_bindings_of_resolve hr hm
  · intro h
    rw [h] at hstr
    have ht : (e.rebind strict).1 = (e.rebind lenient).1 := by
      rw [rebind_of_ok hstr, rebind_of_ok hlen, Leaf.rebind_sameNames hn]
    exact Prod.ext ht hstr
  · intro n more h
    rw [h] at hstr
    exact hstr

end

theorem rebind_by_policy_listed_without_index :
    ∃ (e : Expr) (ctx : Context),
      e = .and (.and (.leaf (.ofName "A?")) (.leaf (.ofName "A1")))
        (.or (.leaf (.ofName "B*")) (.leaf (.ofName "B"))) ∧
      ctx.knownNames .path = ["A1", "B", "A1"] ∧ ctx.indexOf .path "B" = none ∧
      e.rebind ctx =
        (.and (.and (.leaf ⟨"A?", .path, [⟨"A1", 7⟩, ⟨"A1", 7⟩], true⟩) (.leaf ⟨"A1", .path, [⟨"A1", 7⟩], true⟩))
          (.or (.leaf ⟨"B*", .path, [], true⟩) (.leaf ⟨"B", .path, [], true⟩)),
        .ok [⟨"B*", .path, .noMatch, ["A1", "B", "A1"]⟩, ⟨"B", .path, .notFound, ["A1", "B", "A1"]⟩]) ∧
      (e.rebind (ctx.withPolicy .strict)).2 = .error (.unresolved ⟨"B*", .path, .noMatch, ["A1", "B", "A1"]⟩) := by
  let e : Expr := .and (.and (.leaf (.ofName "A?")) (.leaf (.ofName "A1")))
    (.or (.leaf (.ofName "B*")) (.leaf (.ofName "B")))
  let ctx : Context := {
    knownNames := fun _ => ["A1", "B", "A1"]
    indexOf := fun _ name => if name = "A1" then some 7 else none
    passed := fun _ _ => false
    hasSource := fun _ => false
    policy := .lenient }
  have hc : ∀ l ∈ e.leaves, l.Compiles := by decide
  have hl : ctx.policy = .lenient := rfl
  have hs : (ctx.withPolicy .strict).policy = .strict := rfl
  obtain ⟨ho, -, -, -, hs⟩ := rebind_by_policy hl hs ⟨rfl, rfl⟩ hc
  refine ⟨e, ctx, rfl, rfl, rfl, Prod.ext rfl ho, hs _ _ rfl⟩

end Expr

end TriggerLogic
