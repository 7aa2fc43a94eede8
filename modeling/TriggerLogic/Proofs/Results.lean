import TriggerLogic.Proofs.Display
import TriggerLogic.Proofs.Places

namespace TriggerLogic

lemma mem_map_get_iff {names : List String} (hn : names.Nodup) {bits : List Bool}
    {order : List (Fin names.length)} (ho : ∀ i, i ∈ order ↔ bits[i.val]? = some true) {i : Nat}
    {name : String} (hi : names[i]? = some name) :
    name ∈ order.map names.get ↔ bits[i]? = some true := by
  obtain ⟨hlt, rfl⟩ := List.getElem?_eq_some_iff.mp hi
  rw [← ho ⟨i, hlt⟩, List.mem_map]
  constructor
  · rintro ⟨j, hj, he⟩
    rwa [← List.nodup_iff_injective_get.mp hn (he : names.get j = names.get ⟨i, hlt⟩)]
  · intro hj
    exact ⟨_, hj, rfl⟩

namespace Signals

variable {s s' : Signals} {name : String} {names : List String} {bit : Bool} {bits : List Bool} {i : Nat}

def passAll (names : List String) (s : Signals) : Signals :=
  names.foldl (fun s name => s.setPassed name true) s

def Backed (s : Signals) : Prop :=
  ∀ i, s.passed i = true → s.available = true

lemma Consistent.ext (hs : s.Consistent) (hs' : s'.Consistent) (hn : s.names = s'.names)
    (hi : s.indices = s'.indices) (ha : s.available = s'.available)
    (hp : ∀ i < s.names.length, s.passed i = s'.passed i) : s = s' := by
  have hr : s.results = s'.results := by
    apply List.ext_getElem
    · rw [hs.length_results, hs'.length_results, hn]
    · intro i h h'
      have hb := hp i (by rwa [← hs.length_results])
      simpa [passed, h, h'] using hb
  cases s
  cases s'
  simp_all

lemma setPassed_keeps (s : Signals) (name : String) (bit : Bool) :
    (s.setPassed name bit).names = s.names ∧
    (s.setPassed name bit).indices = s.indices ∧ (s.setPassed name bit).available = true := by
  cases hn : s.indexOf name <;> simp [setPassed, hn]

lemma setPassed_of_unknown (h : s.indexOf name = none) :
    s.setPassed name bit = { s with available := true } := by
  simp [setPassed, h]

lemma passAll_keeps (s : Signals) (names : List String) :
    (s.passAll names).names = s.names ∧ (s.passAll names).indices = s.indices ∧
    (s.available = true → (s.passAll names).available = true) := by
  induction names generalizing s with
  | nil => exact ⟨rfl, rfl, id⟩
  | cons name names ih =>
    obtain ⟨hn, hi, ha⟩ := setPassed_keeps s name true
    obtain ⟨hn', hi', ha'⟩ := ih (s.setPassed name true)
    exact ⟨hn'.trans hn, hi'.trans hi, fun _ => ha' ha⟩

lemma passAll_consistent (hs : s.Consistent) : (s.passAll names).Consistent := by
  induction names generalizing s with
  | nil => exact hs
  | cons name names ih => exact ih (setPassed_consistent name true hs)

lemma passed_passAll (hs : s.Consistent) (hn : s.names[i]? = some name) :
    (s.passAll names).passed i = (s.passed i || decide (name ∈ names)) := by
  obtain ⟨hi, -⟩ := List.getElem?_eq_some_iff.mp hn
  induction names generalizing s with
  | nil => simp [passAll]
  | cons other names ih =>
    have hk : (s.setPassed other true).names = s.names := (setPassed_keeps s other true).1
    have hp := ih (setPassed_consistent other true hs) (by rwa [hk]) (by rwa [hk])
    rw [passed_setPassed hs hi, hn] at hp
    rw [passAll, List.foldl_cons, ← passAll, hp]
    by_cases ho : name = other <;> simp [ho]

lemma passAll_setResults (hs : s.Consistent)
    (hb : ∀ (i : Nat) name, s.names[i]? = some name → (name ∈ names ↔ bits[i]? = some true)) :
    (s.setResults []).passAll names = s.setResults bits := by
  have hs' : (s.setResults []).Consistent := setResults_consistent [] hs
  obtain ⟨hn, hi, ha⟩ := passAll_keeps (s.setResults []) names
  apply (passAll_consistent hs').ext (setResults_consistent bits hs) hn hi (ha rfl)
  intro i hi
  have hlt : i < s.names.length := by rwa [hn] at hi
  have hname : s.names[i]? = some s.names[i] := List.getElem?_eq_getElem hlt
  rw [passed_passAll hs' hname, passed_setResults hlt, passed_setResults hlt, Bool.eq_iff_iff]
  simp [hb i _ hname, List.getD_eq_getElem?_getD, Option.getD_eq_iff]

end Signals

namespace Table

structure SameBut (level : Level) (t t' : Table) : Prop where
  names : (t'.signals level).names = (t.signals level).names
  indices : (t'.signals level).indices = (t.signals level).indices
  others : ∀ other, other ≠ level → t'.signals other = t.signals other
  policy : t'.policy = t.policy
  updated : t'.updated = t.updated

def passEach (level : Level) : List String → Table → Table × List Bool
  | [], t => (t, [])
  | name :: names, t =>
    let (t', known) := t.setPassed level name true
    let (t'', answers) := t'.passEach level names
    (t'', known :: answers)

variable {t : Table} {level : Level} {f g : Signals → Signals} {names : List String}

lemma signals_modify : (t.modify level f).signals level = f (t.signals level) := by
  cases level <;> rfl

lemma signals_modify_of_ne {other : Level} (ho : other ≠ level) :
    (t.modify level f).signals other = t.signals other := by
  cases level <;> cases other <;> simp_all [modify, signals]

lemma modify_modify : (t.modify level f).modify level g = t.modify level (g ∘ f) := by
  cases level <;> rfl

lemma modify_congr (h : f (t.signals level) = g (t.signals level)) : t.modify level f = t.modify level g := by
  cases level with
  | path => exact congrArg (fun paths => { t with paths }) h
  | seed => exact congrArg (fun seeds => { t with seeds }) h

lemma modify_sameBut (hn : ∀ s, (f s).names = s.names) (hi : ∀ s, (f s).indices = s.indices) :
    t.SameBut level (t.modify level f) where
  names := by rw [signals_modify, hn]
  indices := by rw [signals_modify, hi]
  others _ ho := signals_modify_of_ne ho
  policy := by cases level <;> rfl
  updated := updated_modify

lemma passEach_eq : t.passEach level names =
    (t.modify level (Signals.passAll names), names.map (t.isKnown level)) := by
  induction names generalizing t with
  | nil => cases level <;> rfl
  | cons name names ih =>
    have hk : (t.modify level (Signals.setPassed name true)).isKnown level = t.isKnown level := by
      funext other
      rw [isKnown, isKnown, signals_modify, (Signals.setPassed_sameNames name true).2]
    simp only [passEach, setPassed, ih, modify_modify, hk]
    rfl

theorem setResults_one_by_one (policy : Policy) (ops : List Op) (level : Level) (bits : List Bool)
    {order : List (Fin ((run policy ops).context.knownNames level).length)}
    (ho : ∀ i, i ∈ order ↔ bits[i.val]? = some true) :
    ((run policy ops).setResults level []).passEach level
        (order.map ((run policy ops).context.knownNames level).get) =
      ((run policy ops).setResults level bits, order.map fun _ => true) ∧
    (run policy ops).SameBut level ((run policy ops).setResults level bits) := by
  have hs : ((run policy ops).signals level).Consistent := run_consistent policy ops level
  refine ⟨?_, modify_sameBut (fun _ => rfl) fun _ => rfl⟩
  rw [passEach_eq, setResults, modify_modify]
  apply Prod.ext
  · apply modify_congr
    apply Signals.passAll_setResults hs
    intro i name hi
    exact mem_map_get_iff hs.nodup_names ho hi
  · rw [List.map_map]
    apply List.map_congr_left
    intro i _
    have hi : ((run policy ops).signals level).indexOf (((run policy ops).signals level).names.get i) =
        some i.val :=
      (hs.indexOf_eq_some _ i).mpr (List.getElem?_eq_getElem i.isLt)
    rw [Function.comp_apply, isKnown, signals_modify]
    exact congrArg Option.isSome hi

theorem setResults_one_by_one_reversed :
    let t := run .lenient [.setNames .path ["A", "B", "A", "C"], .setResults .path [false, true], .acknowledge]
    (∀ i : Fin 3, i ∈ [2, 0] ↔ [true, false, true, true][i.val]? = some true) ∧
    (t.setResults .path []).passEach .path ["C", "A"] =
      (t.setResults .path [true, false, true, true], [true, true]) := by
  have ho : ∀ i : Fin 3, i ∈ [2, 0] ↔ [true, false, true, true][i.val]? = some true := by decide
  exact ⟨ho, (setResults_one_by_one .lenient [.setNames .path ["A", "B", "A", "C"],
    .setResults .path [false, true], .acknowledge] .path [true, false, true, true] ho).1⟩

namespace Op

variable {s : Signals} {op : Op}

lemma act_backed (ho : op ≠ .setAvailable level false) (hs : s.Backed) : (op.act level s).Backed := by
  intro i hp
  cases op with
  | setNames level' names =>
    by_cases hl : level' = level
    · simp [act, hl, Signals.passed_setNames] at hp
    · simp only [act, if_neg hl] at hp ⊢
      exact hs i hp
  | setResults level' bits =>
    by_cases hl : level' = level
    · simp [act, hl, Signals.setResults]
    · simp only [act, if_neg hl] at hp ⊢
      exact hs i hp
  | setPassed level' name bit =>
    by_cases hl : level' = level
    · simp [act, hl, Signals.setPassed_keeps]
    · simp only [act, if_neg hl] at hp ⊢
      exact hs i hp
  | setAvailable level' available =>
    by_cases hl : level' = level
    · cases available <;> simp_all [act]
    · simp only [act, if_neg hl] at hp ⊢
      exact hs i hp
  | clearResults => simp [act, Signals.passed_clearResults] at hp
  | setPolicy policy => exact hs i hp
  | acknowledge => exact hs i hp

end Op

variable {policy : Policy} {ops : List Op} {l : Leaf} {e : Expr}

lemma run_backed (ho : .setAvailable level false ∉ sinceNamed level ops) :
    ((run policy ops).signals level).Backed := by
  induction ops using List.reverseRecOn with
  | nil =>
    intro i hp
    cases level <;> simp [run, runFrom, empty, signals, Signals.passed] at hp
  | append_singleton ops op ih =>
    rw [run_concat, Op.signals_apply]
    cases h : op.renamedTo level with
    | some names =>
      intro i hp
      simp [Op.act_of_renamedTo h, Signals.passed_setNames] at hp
    | none =>
      rw [sinceNamed_concat h, List.mem_append, List.mem_singleton, not_or] at ho
      exact Op.act_backed (Ne.symm ho.2) (ih ho.1)

lemma passes_context : l.passes t.context = (l.bound && (t.signals l.level).available &&
    l.bindings.any fun b => (t.signals l.level).passed b.index) :=
  rfl

lemma signals_setAvailable {available : Bool} :
    (t.setAvailable level available).signals level = { t.signals level with available := available } :=
  signals_modify

lemma passes_setAvailable (hb : (t.signals level).Backed) :
    l.passes (t.setAvailable level true).context = l.passes t.context := by
  rw [passes_context, passes_context]
  by_cases hl : l.level = level
  · subst hl
    rw [Bool.eq_iff_iff]
    simp only [signals_setAvailable, Bool.and_eq_true, List.any_eq_true, and_true]
    constructor
    · rintro ⟨hbound, b, hm, hb'⟩
      exact ⟨⟨hbound, hb b.index hb'⟩, b, hm, hb'⟩
    · rintro ⟨⟨hbound, -⟩, hany⟩
      exact ⟨hbound, hany⟩
  · rw [setAvailable, signals_modify_of_ne hl]

lemma evaluate_setAvailable (hb : (t.signals level).Backed) :
    e.evaluate (t.setAvailable level true).context = e.evaluate t.context := by
  rw [Expr.evaluate_eq_value, Expr.evaluate_eq_value]
  exact Expr.value_congr fun l _ => passes_setAvailable hb

theorem setPassed_refused {name : String} {bit : Bool}
    (h : ((run policy ops).setPassed level name bit).2 = false) :
    ((run policy ops).setPassed level name bit).1 = (run policy ops).setAvailable level true ∧
    (((run policy ops).signals level).Backed ↔
      ∀ e : Expr, e.evaluate ((run policy ops).setPassed level name bit).1.context =
        e.evaluate (run policy ops).context) ∧
    (((run policy ops).signals level).Backed →
      ∀ f : Filter, f.accept ((run policy ops).setPassed level name bit).1.context =
        f.accept (run policy ops).context) ∧
    (.setAvailable level false ∉ sinceNamed level ops → ((run policy ops).signals level).Backed) := by
  have hn : ((run policy ops).signals level).indexOf name = none := by
    simpa [setPassed, isKnown] using h
  have ht : ((run policy ops).setPassed level name bit).1 = (run policy ops).setAvailable level true :=
    modify_congr (Signals.setPassed_of_unknown hn)
  rw [ht]
  refine ⟨rfl, ⟨fun hb e => evaluate_setAvailable hb, ?_⟩, ?_, run_backed⟩
  · intro he i hp
    have hv : (Expr.leaf ⟨"", level, [⟨"", i⟩], true⟩).evaluate
        ((run policy ops).setAvailable level true).context = true := by
      rw [Expr.evaluate_eq_value, Expr.value, passes_context, signals_setAvailable]
      exact (Bool.or_false _).trans hp
    rw [he, Expr.evaluate_eq_value, Expr.value, passes_context, Bool.and_eq_true] at hv
    exact hv.1
  · intro hb f
    cases hc : f.configured with
    | false => rw [Filter.accept_of_not_configured hc, Filter.accept_of_not_configured hc]
    | true =>
      rw [Filter.accept_eq_evaluate_joined hc, Filter.accept_eq_evaluate_joined hc]
      exact evaluate_setAvailable hb

theorem setPassed_refused_since_named :
    let t := run .strict [.setResults .seed [], .setAvailable .path false, .setNames .path ["A", "B"],
      .setPassed .path "A" true]
    (t.setPassed .path "C" false).2 = false ∧
    (t.setPassed .path "C" false).1 = t.setAvailable .path true ∧
    (∀ e : Expr, e.evaluate (t.setPassed .path "C" false).1.context = e.evaluate t.context) ∧
    ∀ f : Filter, f.accept (t.setPassed .path "C" false).1.context = f.accept t.context := by
  have h : ((run .strict [.setResults .seed [], .setAvailable .path false, .setNames .path ["A", "B"],
      .setPassed .path "A" true]).setPassed .path "C" false).2 = false := rfl
  obtain ⟨ht, he, hf, hb⟩ := setPassed_refused h
  have hs := hb (by decide)
  exact ⟨h, ht, he.mp hs, hf hs⟩

/-- A source that was taken away comes back with a refused result, and with it the results from before. -/
theorem setPassed_refused_revives :
    let t := run .strict [.setNames .path ["A"], .setResults .path [true], .setAvailable .path false]
    (t.setPassed .path "B" false).2 = false ∧
    (Expr.leaf ⟨"A", .path, [⟨"A", 0⟩], true⟩).evaluate t.context = false ∧
    (Expr.leaf ⟨"A", .path, [⟨"A", 0⟩], true⟩).evaluate (t.setPassed .path "B" false).1.context = true ∧
    ∃ fresh, Filter.ofConfig { conditions := ["A"] } = .ok fresh ∧
      (fresh.configure t.context).1.configured = true ∧
      (fresh.configure t.context).1.accept t.context = false ∧
      (fresh.configure t.context).1.accept (t.setPassed .path "B" false).1.context = true := by
  have h : Filter.ofConfig { conditions := ["A"] } =
      .ok ⟨{ conditions := ["A"] }, [⟨"A", .leaf (.ofName "A")⟩], false⟩ := by cbv
  exact ⟨rfl, rfl, rfl, _, h, rfl, rfl, rfl⟩

end Table

end TriggerLogic
