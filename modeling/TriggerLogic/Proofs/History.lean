import Mathlib.Tactic.Lemma
import TriggerLogic.Table

namespace TriggerLogic

namespace Signals

structure Consistent (s : Signals) : Prop where
  indexOf_eq_some : ∀ name i, s.indexOf name = some i ↔ s.names[i]? = some name
  length_results : s.results.length = s.names.length

def SameNames (s s' : Signals) : Prop :=
  s'.names = s.names ∧ s'.indexOf = s.indexOf

variable {s : Signals}

lemma addName_of_indexOf_none {name : String} (hn : s.indexOf name = none) :
    s.addName name =
      { s with names := s.names ++ [name], indices := (name, s.names.length) :: s.indices } := by
  simp [addName, hn]

lemma indexOf_addName {name : String} (hn : s.indexOf name = none) (other : String) :
    (s.addName name).indexOf other = if other = name then some s.names.length else s.indexOf other := by
  rw [addName_of_indexOf_none hn, indexOf, List.lookup_cons]
  by_cases ho : other = name
  · simp [ho]
  · simp only [beq_eq_false_iff_ne.mpr ho, if_neg ho, indexOf]

lemma getElem?_concat_eq_some {names : List String} {name other : String} {i : Nat} :
    (names ++ [name])[i]? = some other ↔ names[i]? = some other ∨ i = names.length ∧ other = name := by
  rcases Nat.lt_trichotomy i names.length with hi | rfl | hi
  · rw [List.getElem?_append_left hi]
    simp [show i ≠ names.length by omega]
  · simp [eq_comm]
  · rw [List.getElem?_eq_none (by simp; omega), List.getElem?_eq_none (by omega)]
    simp [show i ≠ names.length by omega]

lemma addName_index (name : String)
    (h : ∀ other i, s.indexOf other = some i ↔ s.names[i]? = some other) (other : String) (i : Nat) :
    (s.addName name).indexOf other = some i ↔ (s.addName name).names[i]? = some other := by
  cases hn : s.indexOf name with
  | some j =>
    have ha : s.addName name = s := by simp [addName, hn]
    rw [ha]
    exact h other i
  | none =>
    have hfresh : s.names[i]? ≠ some name := by
      intro hi
      rw [(h name i).mpr hi] at hn
      cases hn
    rw [indexOf_addName hn, addName_of_indexOf_none hn, getElem?_concat_eq_some]
    by_cases ho : other = name
    · subst ho
      simp [hfresh, eq_comm]
    · simp [ho, h other i]

lemma setNames_consistent (names : List String) : (s.setNames names).Consistent := by
  have hf : ∀ s : Signals, (∀ other i, s.indexOf other = some i ↔ s.names[i]? = some other) →
      ∀ other i, (names.foldl addName s).indexOf other = some i ↔
        (names.foldl addName s).names[i]? = some other := by
    induction names with
    | nil => exact fun s hs => hs
    | cons name names ih => exact fun s hs => ih _ (addName_index name hs)
  exact ⟨hf _ (by simp [indexOf]), by simp [setNames]⟩

lemma setResults_consistent (bits : List Bool) (h : s.Consistent) : (s.setResults bits).Consistent :=
  ⟨h.indexOf_eq_some, by simp [setResults]⟩

lemma setPassed_sameNames (name : String) (bit : Bool) : s.SameNames (s.setPassed name bit) := by
  cases hn : s.indexOf name <;> simp only [setPassed, hn] <;> exact ⟨rfl, rfl⟩

lemma setPassed_consistent (name : String) (bit : Bool) (h : s.Consistent) :
    (s.setPassed name bit).Consistent := by
  obtain ⟨hn, hi⟩ : s.SameNames (s.setPassed name bit) := setPassed_sameNames name bit
  refine ⟨by rw [hi, hn]; exact h.indexOf_eq_some, ?_⟩
  rw [hn, ← h.length_results]
  cases hf : s.indexOf name <;> simp [setPassed, hf]

lemma clearResults_consistent (h : s.Consistent) : s.clearResults.Consistent :=
  ⟨h.indexOf_eq_some, by simp [clearResults, h.length_results]⟩

end Signals

namespace Table

inductive Op where
  | setNames (level : Level) (names : List String)
  | setResults (level : Level) (bits : List Bool)
  | setPassed (level : Level) (name : String) (bit : Bool)
  | setAvailable (level : Level) (available : Bool)
  | clearResults
  | setPolicy (policy : Policy)
  | acknowledge
deriving DecidableEq, Repr

namespace Op

def apply (t : Table) : Op → Table
  | setNames level names => t.setNames level names
  | setResults level bits => t.setResults level bits
  | setPassed level name bit => (t.setPassed level name bit).1
  | setAvailable level available => t.setAvailable level available
  | clearResults => t.clearResults
  | setPolicy policy => t.setPolicy policy
  | acknowledge => t.acknowledge

def renames : Op → Bool
  | setNames _ _ => true
  | _ => false

def renamedTo (level : Level) : Op → Option (List String)
  | setNames level' names => if level' = level then some names else none
  | _ => none

def act (level : Level) (s : Signals) : Op → Signals
  | setNames level' names => if level' = level then s.setNames names else s
  | setResults level' bits => if level' = level then s.setResults bits else s
  | setPassed level' name bit => if level' = level then s.setPassed name bit else s
  | setAvailable level' available => if level' = level then { s with available := available } else s
  | clearResults => s.clearResults
  | setPolicy _ => s
  | acknowledge => s

end Op

def runFrom (t : Table) (ops : List Op) : Table :=
  ops.foldl Op.apply t

def run (policy : Policy) (ops : List Op) : Table :=
  (empty policy).runFrom ops

def Consistent (t : Table) : Prop :=
  ∀ level, (t.signals level).Consistent

def SameNames (t t' : Table) : Prop :=
  ∀ level, (t.signals level).SameNames (t'.signals level)

variable {t t' t'' : Table}

lemma updated_modify {level : Level} {f : Signals → Signals} : (t.modify level f).updated = t.updated := by
  cases level <;> rfl

lemma SameNames.trans (h : t.SameNames t') (h' : t'.SameNames t'') : t.SameNames t'' :=
  fun level => ⟨(h' level).1.trans (h level).1, (h' level).2.trans (h level).2⟩

namespace Op

variable {op : Op} {level : Level} {s : Signals}

lemma signals_apply : (op.apply t).signals level = op.act level (t.signals level) := by
  cases op with
  | setNames level' names => cases level' <;> cases level <;> rfl
  | setResults level' bits => cases level' <;> cases level <;> rfl
  | setPassed level' name bit => cases level' <;> cases level <;> rfl
  | setAvailable level' available => cases level' <;> cases level <;> rfl
  | clearResults => cases level <;> rfl
  | setPolicy policy => rfl
  | acknowledge => rfl

lemma updated_apply : (op.apply t).updated = (op.renames || (decide (op ≠ acknowledge) && t.updated)) := by
  cases op <;> simp [apply, renames, Table.setNames, Table.setResults, Table.setPassed,
    Table.setAvailable, Table.clearResults, Table.setPolicy, Table.acknowledge, updated_modify]

lemma renamedTo_of_not_renames (h : op.renames = false) : op.renamedTo level = none := by
  cases op <;> simp_all [renames, renamedTo]

lemma act_consistent (op : Op) (hs : s.Consistent) : (op.act level s).Consistent := by
  cases op with
  | setNames level' names =>
    rw [act]
    split
    · exact Signals.setNames_consistent names
    · exact hs
  | setResults level' bits =>
    rw [act]
    split
    · exact Signals.setResults_consistent bits hs
    · exact hs
  | setPassed level' name bit =>
    rw [act]
    split
    · exact Signals.setPassed_consistent name bit hs
    · exact hs
  | setAvailable level' available =>
    rw [act]
    split
    · exact ⟨hs.indexOf_eq_some, hs.length_results⟩
    · exact hs
  | clearResults => exact Signals.clearResults_consistent hs
  | setPolicy policy => exact hs
  | acknowledge => exact hs

lemma act_sameNames (h : op.renamedTo level = none) : s.SameNames (op.act level s) := by
  cases op with
  | setNames level' names =>
    have hl : level' ≠ level := by simpa [renamedTo] using h
    rw [act, if_neg hl]
    exact ⟨rfl, rfl⟩
  | setResults level' bits =>
    rw [act]
    split <;> exact ⟨rfl, rfl⟩
  | setPassed level' name bit =>
    rw [act]
    split
    · exact Signals.setPassed_sameNames name bit
    · exact ⟨rfl, rfl⟩
  | setAvailable level' available =>
    rw [act]
    split <;> exact ⟨rfl, rfl⟩
  | clearResults => exact ⟨rfl, rfl⟩
  | setPolicy policy => exact ⟨rfl, rfl⟩
  | acknowledge => exact ⟨rfl, rfl⟩

lemma apply_consistent (op : Op) (ht : t.Consistent) : (op.apply t).Consistent := by
  intro level
  rw [signals_apply]
  exact op.act_consistent (ht level)

lemma apply_sameNames (h : op.renames = false) : t.SameNames (op.apply t) := by
  intro level
  rw [signals_apply]
  exact act_sameNames (renamedTo_of_not_renames h)

lemma updated_of_apply (hu : (op.apply t).updated = false) :
    op.renames = false ∧ (t.updated = false ∨ op = acknowledge) := by
  rw [updated_apply, Bool.or_eq_false_iff, Bool.and_eq_false_iff] at hu
  obtain ⟨hn, ha | hu⟩ := hu
  · exact ⟨hn, .inr (by simpa using ha)⟩
  · exact ⟨hn, .inl hu⟩

end Op

lemma empty_consistent (policy : Policy) : (empty policy).Consistent := by
  intro level
  cases level <;> exact ⟨by simp [signals, empty, Signals.indexOf], rfl⟩

lemma runFrom_consistent (ops : List Op) (ht : t.Consistent) : (t.runFrom ops).Consistent := by
  induction ops generalizing t with
  | nil => exact ht
  | cons op ops ih => exact ih (op.apply_consistent ht)

theorem run_consistent (policy : Policy) (ops : List Op) : (run policy ops).Consistent :=
  runFrom_consistent ops (empty_consistent policy)

lemma runFrom_sameNames {ops : List Op} (h : ∀ op ∈ ops, op.renames = false) :
    t.SameNames (t.runFrom ops) := by
  induction ops generalizing t with
  | nil => exact fun _ => ⟨rfl, rfl⟩
  | cons op ops ih =>
    exact (Op.apply_sameNames (h op (by simp))).trans (ih fun op' ho => h op' (by simp [ho]))

lemma run_append (policy : Policy) (before after : List Op) :
    run policy (before ++ after) = (run policy before).runFrom after :=
  List.foldl_append

end Table

end TriggerLogic
