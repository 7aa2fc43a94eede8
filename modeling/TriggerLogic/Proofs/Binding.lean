import TriggerLogic.Filter
import TriggerLogic.Proofs.History
import TriggerLogic.Proofs.Matching

namespace TriggerLogic

def Selects (pattern name : String) : Prop :=
  if '*' ∈ pattern.toList ∨ '?' ∈ pattern.toList then Glob.Matches pattern.toList name.toList
  else name = pattern

instance (pattern name : String) : Decidable (Selects pattern name) :=
  inferInstanceAs (Decidable (ite _ (Glob.Matches pattern.toList name.toList) (name = pattern)))

lemma selects_iff_matches {pattern name : String} :
    Selects pattern name ↔ Glob.Matches pattern.toList name.toList := by
  rw [Selects]
  split
  · rfl
  · rename_i h
    rw [not_or] at h
    rw [Glob.matches_plain h.1 h.2, String.toList_inj]

namespace Glob

variable [RegexLibrary] {pattern : String} {g : Glob} {err : BindError}

lemma eq_ofPattern_of_compile (h : compile pattern = .ok g) : g = ofPattern pattern := by
  simp only [compile] at h
  split at h
  · cases h
  · cases h
    rfl

lemma error_of_compile (h : compile pattern = .error err) :
    ∃ refusal, err = .invalidPattern refusal ∧ refusal.pattern = pattern ∧
      RegexLibrary.refusal (ofPattern pattern).regexText = some refusal.message := by
  simp only [compile] at h
  split at h
  · rename_i message hm
    cases h
    exact ⟨⟨pattern, message⟩, rfl, rfl, hm⟩
  · cases h

end Glob

def Context.SameNames (ctx ctx' : Context) : Prop :=
  ctx'.knownNames = ctx.knownNames ∧ ctx'.indexOf = ctx.indexOf

lemma Table.SameNames.context {t t' : Table} (h : t.SameNames t') : t.context.SameNames t'.context :=
  ⟨funext fun level => (h level).1, funext fun level => (h level).2⟩

variable {ctx ctx' : Context} {notices : List Notice}

namespace Leaf

variable {l : Leaf} {r : Resolution} {b : Binding}

lemma isGlob_iff : l.isGlob = true ↔ '*' ∈ l.pattern.toList ∨ '?' ∈ l.pattern.toList := by
  simp only [isGlob, List.any_eq_true, Bool.or_eq_true, decide_eq_true_eq]
  constructor
  · rintro ⟨c, hc, rfl | rfl⟩
    · exact .inl hc
    · exact .inr hc
  · rintro (hc | hc)
    · exact ⟨_, hc, .inl rfl⟩
    · exact ⟨_, hc, .inr rfl⟩

lemma mem_scan {t : Table} (ht : t.Consistent) :
    b ∈ l.scan t.context (Glob.ofPattern l.pattern) ↔
      (t.signals l.level).names[b.index]? = some b.name ∧
        Glob.Matches l.pattern.toList b.name.toList := by
  simp only [scan, Glob.filter, List.mem_filterMap, List.mem_filter, Option.map_eq_some_iff,
    Glob.isMatch_ofPattern_iff]
  constructor
  · rintro ⟨name, ⟨-, hm⟩, i, hi, rfl⟩
    exact ⟨((ht l.level).indexOf_eq_some name i).mp hi, hm⟩
  · rintro ⟨hn, hm⟩
    exact ⟨b.name, ⟨List.mem_of_getElem? hn, hm⟩, b.index, ((ht l.level).indexOf_eq_some _ _).mpr hn, rfl⟩

lemma mem_lookup {t : Table} (ht : t.Consistent) :
    b ∈ l.lookup t.context ↔
      (t.signals l.level).names[b.index]? = some b.name ∧ b.name = l.pattern := by
  have hi : t.context.indexOf l.level l.pattern = some b.index ↔
      (t.signals l.level).names[b.index]? = some l.pattern :=
    (ht l.level).indexOf_eq_some l.pattern b.index
  obtain ⟨name, i⟩ := b
  constructor
  · intro hb
    cases hx : t.context.indexOf l.level l.pattern with
    | none => simp [lookup, hx] at hb
    | some j =>
      obtain ⟨rfl, rfl⟩ : name = l.pattern ∧ i = j := by simpa [lookup, hx] using hb
      exact ⟨hi.mp hx, rfl⟩
  · rintro ⟨hn, rfl⟩
    simp [lookup, hi.mpr hn]

variable [RegexLibrary]

def BoundTo (ctx : Context) (l : Leaf) : Prop :=
  l.bound = true ∧ ∃ r, l.resolve ctx = .ok r ∧ l.bindings = r.bindings

lemma resolve_sameNames (h : ctx.SameNames ctx') : l.resolve ctx' = l.resolve ctx := by
  obtain ⟨names, index, _, _, _, _⟩ := ctx
  obtain ⟨names', index', _, _, _, _⟩ := ctx'
  obtain ⟨rfl, rfl⟩ : names' = names ∧ index' = index := h
  rfl

lemma BoundTo.sameNames (h : ctx.SameNames ctx') (hb : l.BoundTo ctx) : l.BoundTo ctx' := by
  rwa [BoundTo, resolve_sameNames h]

lemma settle_boundTo (h : (l.settle ctx).2 = .ok notices) : (l.settle ctx).1.BoundTo ctx := by
  cases hr : l.resolve ctx with
  | error e => simp [settle, hr] at h
  | ok r =>
    simp only [settle, hr]
    exact ⟨rfl, r, hr, rfl⟩

lemma settle_reset : (l.settle ctx).1.reset = l.reset := by
  cases hr : l.resolve ctx <;> simp [settle, hr, reset, bind]

def settleAll (ctx : Context) : List Leaf → List Leaf × Except BindError (List Notice)
  | [] => ([], .ok [])
  | l :: ls =>
    match l.settle ctx with
    | (l', .error e) => (l' :: ls, .error e)
    | (l', .ok notices) => (l' :: (settleAll ctx ls).1, (settleAll ctx ls).2.map (notices ++ ·))

lemma settleAll_append (ls ms : List Leaf) :
    settleAll ctx (ls ++ ms) =
      match settleAll ctx ls with
      | (ls', .error e) => (ls' ++ ms, .error e)
      | (ls', .ok notices) => (ls' ++ (settleAll ctx ms).1, (settleAll ctx ms).2.map (notices ++ ·)) := by
  induction ls with
  | nil => cases hm : (settleAll ctx ms).2 <;> simp [settleAll, Except.map, Prod.ext_iff, hm]
  | cons l ls ih =>
    rcases hl : l.settle ctx with ⟨l', _ | ns⟩
    · simp [settleAll, hl]
    · rcases hs : settleAll ctx ls with ⟨ls', _ | ns'⟩
      · simp [settleAll, hl, hs, ih, Except.map]
      · cases hm : (settleAll ctx ms).2 <;> simp [settleAll, hl, hs, ih, hm, Except.map]

lemma settleAll_boundTo {ls : List Leaf} (h : (settleAll ctx ls).2 = .ok notices) :
    ∀ l ∈ (settleAll ctx ls).1, l.BoundTo ctx := by
  induction ls generalizing notices with
  | nil => simp [settleAll]
  | cons l ls ih =>
    rcases hl : l.settle ctx with ⟨l', _ | ns⟩
    · simp [settleAll, hl] at h
    · cases hs : (settleAll ctx ls).2 with
      | error e => simp [settleAll, hl, hs, Except.map] at h
      | ok ns' =>
        have hb : (l.settle ctx).1.BoundTo ctx := settle_boundTo (congrArg Prod.snd hl)
        rw [hl] at hb
        simp only [settleAll, hl]
        exact List.forall_mem_cons.mpr ⟨hb, ih hs⟩

lemma resolve_cases (hr : l.resolve ctx = .ok r) :
    l.isGlob = true ∧ r = l.resolutionOf ctx (l.scan ctx (Glob.ofPattern l.pattern)) ∨
      ¬ l.isGlob = true ∧ r = l.resolutionOf ctx (l.lookup ctx) := by
  rw [resolve] at hr
  by_cases hg : l.isGlob = true
  · rw [if_pos hg] at hr
    cases hc : Glob.compile l.pattern with
    | error e => simp [hc] at hr
    | ok g =>
      rw [hc, Glob.eq_ofPattern_of_compile hc] at hr
      exact .inl ⟨hg, (Except.ok.inj hr).symm⟩
  · rw [if_neg hg] at hr
    exact .inr ⟨hg, (Except.ok.inj hr).symm⟩

theorem mem_bindings_iff {t : Table} (ht : t.Consistent) (hr : l.resolve t.context = .ok r) :
    b ∈ r.bindings ↔
      (t.signals l.level).names[b.index]? = some b.name ∧ Selects l.pattern b.name := by
  rw [Selects]
  obtain ⟨hg, rfl⟩ | ⟨hg, rfl⟩ := resolve_cases hr
  · rw [if_pos (isGlob_iff.mp hg), ← mem_scan ht]
    exact Iff.rfl
  · rw [if_neg (mt isGlob_iff.mpr hg), ← mem_lookup ht]
    exact Iff.rfl

end Leaf

namespace Expr

variable {e : Expr}

lemma leaves_mapLeaves (f : Leaf → Leaf) : (e.mapLeaves f).leaves = e.leaves.map f := by
  induction e with
  | constant b => rfl
  | leaf l => rfl
  | not e ih => exact ih
  | and l r ihl ihr | or l r ihl ihr => simp [mapLeaves, leaves, ihl, ihr]

lemma mapLeaves_mapLeaves (f g : Leaf → Leaf) : (e.mapLeaves g).mapLeaves f = e.mapLeaves (f ∘ g) := by
  induction e with
  | constant b => rfl
  | leaf l => rfl
  | not e ih => exact congrArg not ih
  | and l r ihl ihr | or l r ihl ihr => simp [mapLeaves, ihl, ihr]

variable [RegexLibrary]

def BoundTo (ctx : Context) (e : Expr) : Prop :=
  ∀ l ∈ e.leaves, l.BoundTo ctx

lemma BoundTo.sameNames (h : ctx.SameNames ctx') (hb : e.BoundTo ctx) : e.BoundTo ctx' :=
  fun l hl => (hb l hl).sameNames h

lemma settle_leaves_outcome :
    ((e.settle ctx).1.leaves, (e.settle ctx).2) = Leaf.settleAll ctx e.leaves := by
  induction e with
  | constant b => rfl
  | leaf l =>
    rcases hl : l.settle ctx with ⟨l', _ | ns⟩
    · simp [settle, leaves, Leaf.settleAll, hl]
    · simp [settle, leaves, Leaf.settleAll, hl, Except.map]
  | not e ih => exact ih
  | and l r ihl ihr | or l r ihl ihr =>
    rw [leaves, Leaf.settleAll_append, ← ihl, ← ihr]
    rcases hl : l.settle ctx with ⟨l', _ | ns⟩ <;> simp [settle, leaves, hl]

lemma settle_boundTo (h : (e.settle ctx).2 = .ok notices) : (e.settle ctx).1.BoundTo ctx := by
  have hs : ((e.settle ctx).1.leaves, (e.settle ctx).2) = Leaf.settleAll ctx e.leaves :=
    settle_leaves_outcome
  rw [h] at hs
  have hb : ∀ l ∈ (Leaf.settleAll ctx e.leaves).1, l.BoundTo ctx :=
    Leaf.settleAll_boundTo (congrArg Prod.snd hs.symm)
  rwa [← hs] at hb

lemma settle_reset : (e.settle ctx).1.mapLeaves Leaf.reset = e.mapLeaves Leaf.reset := by
  induction e with
  | constant b => rfl
  | leaf l => exact congrArg leaf Leaf.settle_reset
  | not e ih => exact congrArg not ih
  | and l r ihl ihr | or l r ihl ihr =>
    rcases hl : l.settle ctx with ⟨l', _ | ns⟩
    · simp_all [settle, mapLeaves]
    · simp_all [settle, mapLeaves]

lemma rebind_boundTo (h : (e.rebind ctx).2 = .ok notices) : (e.rebind ctx).1.BoundTo ctx :=
  settle_boundTo h

lemma rebind_reset : (e.rebind ctx).1.mapLeaves Leaf.reset = e.mapLeaves Leaf.reset := by
  rw [rebind, settle_reset, mapLeaves_mapLeaves]
  rfl

end Expr

namespace Condition

variable [RegexLibrary]

def BoundTo (ctx : Context) (cs : List Condition) : Prop :=
  ∀ c ∈ cs, c.root.BoundTo ctx

lemma BoundTo.sameNames {cs : List Condition} (h : ctx.SameNames ctx') (hb : BoundTo ctx cs) :
    BoundTo ctx' cs :=
  fun c hc => (hb c hc).sameNames h

lemma rebindAll_boundTo {cs : List Condition} (h : (rebindAll ctx cs).2 = .ok notices) :
    BoundTo ctx (rebindAll ctx cs).1 := by
  induction cs generalizing notices with
  | nil => simp [rebindAll, BoundTo]
  | cons c cs ih =>
    rcases hc : c.rebind ctx with ⟨c', _ | ns⟩
    · simp [rebindAll, hc] at h
    · rcases hs : rebindAll ctx cs with ⟨cs', _ | ns'⟩
      · simp [rebindAll, hc, hs, Except.map] at h
      · rw [hs] at ih
        simp only [rebindAll, hc, hs]
        have hb : (c.rebind ctx).1.root.BoundTo ctx := Expr.rebind_boundTo (congrArg Prod.snd hc)
        rw [hc] at hb
        exact List.forall_mem_cons.mpr ⟨hb, ih rfl⟩

end Condition

end TriggerLogic
