import Mathlib.Data.List.DropRight
import TriggerLogic.Proofs.History

/-! What a table says, read off its history: names, a bit and the source come each from the latest
operation that wrote them. -/

namespace TriggerLogic

namespace Signals

variable {s : Signals} {name : String} {names seen : List String}

lemma isSome_indexOf_iff (h : ∀ other i, s.indexOf other = some i ↔ s.names[i]? = some other) :
    (s.indexOf name).isSome = true ↔ name ∈ s.names := by
  rw [Option.isSome_iff_exists, List.mem_iff_getElem?]
  exact exists_congr (h name)

lemma names_addName (h : ∀ other i, s.indexOf other = some i ↔ s.names[i]? = some other)
    (hs : s.names = seen.eraseDups) : (s.addName name).names = (seen ++ [name]).eraseDups := by
  have hm : (s.indexOf name).isSome = true ↔ name ∈ seen := by
    rw [isSome_indexOf_iff h, hs, List.mem_eraseDups]
  rw [List.eraseDups_append]
  by_cases hn : name ∈ seen
  · simp [addName, hm.mpr hn, List.removeAll, hn, hs]
  · have hi : s.indexOf name = none := by simpa using mt hm.mp hn
    have hd : [name].eraseDups = [name] := rfl
    rw [addName_of_indexOf_none hi]
    simp [List.removeAll, hn, hs, hd]

lemma names_foldl_addName (h : ∀ other i, s.indexOf other = some i ↔ s.names[i]? = some other)
    (hs : s.names = seen.eraseDups) : (names.foldl addName s).names = (seen ++ names).eraseDups := by
  induction names generalizing s seen with
  | nil => simpa using hs
  | cons name names ih =>
    have hf := ih (addName_index name h) (names_addName h hs)
    rwa [List.append_assoc] at hf

lemma names_setNames : (s.setNames names).names = names.eraseDups := by
  have hs : ({ s with names := [], indices := [] } : Signals).names = ([] : List String).eraseDups := rfl
  exact names_foldl_addName (by simp [indexOf]) hs

lemma available_setNames : (s.setNames names).available = s.available := by
  have hf : ∀ s : Signals, (names.foldl addName s).available = s.available := by
    induction names with
    | nil => exact fun _ => rfl
    | cons name names ih =>
      intro s
      have ha : (s.addName name).available = s.available := by
        rw [addName]
        split <;> rfl
      exact (ih _).trans ha
  exact hf _

lemma getD_map_false {α : Type} (xs : List α) (i : Nat) : (xs.map fun _ => false).getD i false = false := by
  rw [List.getD_eq_getElem?_getD, List.getElem?_map]
  cases xs[i]? <;> rfl

lemma passed_setNames (i : Nat) : (s.setNames names).passed i = false :=
  getD_map_false _ i

lemma passed_lt (hs : s.Consistent) {i : Nat} (hp : s.passed i = true) : i < s.names.length := by
  by_contra hi
  have hr : s.results[i]? = none := by
    apply List.getElem?_eq_none
    have hl := hs.length_results
    omega
  simp [passed, List.getD_eq_getElem?_getD, hr] at hp

lemma passed_setResults {bits : List Bool} {i : Nat} (hi : i < s.names.length) :
    (s.setResults bits).passed i = bits.getD i false := by
  have ht : ((bits ++ s.names.map fun _ => false).take s.names.length)[i]? =
      (bits ++ s.names.map fun _ => false)[i]? := List.getElem?_take_of_lt hi
  simp only [setResults, passed, List.getD_eq_getElem?_getD, ht]
  by_cases hb : i < bits.length
  · rw [List.getElem?_append_left hb]
  · have hb' : bits.length ≤ i := by omega
    have hm : i - bits.length < s.names.length := by omega
    rw [List.getElem?_append_right hb', List.getElem?_eq_none hb']
    simp [hm]

lemma passed_setPassed (hs : s.Consistent) {bit : Bool} {i : Nat} (hi : i < s.names.length) :
    (s.setPassed name bit).passed i = if s.names[i]? = some name then bit else s.passed i := by
  have hr : i < s.results.length := by rwa [hs.length_results]
  cases hn : s.indexOf name with
  | none =>
    have hne : s.names[i]? ≠ some name := by
      intro h
      rw [(hs.indexOf_eq_some name i).mpr h] at hn
      cases hn
    simp [setPassed, passed, hn, hne]
  | some j =>
    have hj : s.names[j]? = some name := (hs.indexOf_eq_some name j).mp hn
    by_cases h : s.names[i]? = some name
    · have hij : some i = some j := ((hs.indexOf_eq_some name i).mpr h).symm.trans hn
      obtain rfl : i = j := Option.some.inj hij
      simp [setPassed, passed, hn, h, hr]
    · have hij : j ≠ i := by
        rintro rfl
        exact h hj
      simp [setPassed, passed, hn, h, List.getD_eq_getElem?_getD, List.getElem?_set_ne hij]

lemma passed_clearResults (i : Nat) : s.clearResults.passed i = false :=
  getD_map_false _ i

end Signals

namespace Table

namespace Op

def concerns (level : Level) : Op → Bool
  | setNames level' _ => level' = level
  | setResults level' _ => level' = level
  | setPassed level' _ _ => level' = level
  | setAvailable level' _ => level' = level
  | clearResults => true
  | setPolicy _ => false
  | acknowledge => false

/-- The bit that the operation writes for the `i`-th of the names of the level. -/
def bitWritten (level : Level) (names : List String) (i : Nat) : Op → Option Bool
  | setResults level' bits => if level' = level then some (bits.getD i false) else none
  | setPassed level' name bit => if level' = level ∧ names[i]? = some name then some bit else none
  | clearResults => some false
  | _ => none

def sourceMarked (level : Level) : Op → Option Bool
  | setResults level' _ => if level' = level then some true else none
  | setPassed level' _ _ => if level' = level then some true else none
  | setAvailable level' available => if level' = level then some available else none
  | clearResults => some false
  | _ => none

variable {op : Op} {level : Level} {s : Signals}

lemma act_of_not_concerns (h : op.concerns level = false) : op.act level s = s := by
  cases op <;> simp_all [concerns, act]

lemma act_of_renamedTo {names : List String} (h : op.renamedTo level = some names) :
    op.act level s = s.setNames names := by
  cases op <;> simp_all [renamedTo, act]

lemma available_act : (op.act level s).available = (op.sourceMarked level).getD s.available := by
  cases op with
  | setNames level' names =>
    rw [act]
    split
    · exact Signals.available_setNames
    · rfl
  | setPassed level' name bit =>
    by_cases hl : level' = level
    · cases hn : s.indexOf name <;> simp [act, sourceMarked, hl, Signals.setPassed, hn]
    · simp [act, sourceMarked, hl]
  | setResults level' bits =>
    by_cases hl : level' = level
    · simp [act, sourceMarked, hl, Signals.setResults]
    · simp [act, sourceMarked, hl]
  | setAvailable level' available =>
    by_cases hl : level' = level <;> simp [act, sourceMarked, hl]
  | clearResults => rfl
  | setPolicy policy => rfl
  | acknowledge => rfl

lemma passed_act (hs : s.Consistent) (h : op.renamedTo level = none) {i : Nat} (hi : i < s.names.length) :
    (op.act level s).passed i = (op.bitWritten level s.names i).getD (s.passed i) := by
  cases op with
  | setNames level' names => simp_all [renamedTo, act, bitWritten]
  | setResults level' bits =>
    by_cases hl : level' = level
    · simp [act, bitWritten, hl, Signals.passed_setResults hi]
    · simp [act, bitWritten, hl]
  | setPassed level' name bit =>
    by_cases hl : level' = level
    · by_cases hn : s.names[i]? = some name <;>
        simp [act, bitWritten, hl, hn, Signals.passed_setPassed hs hi]
    · simp [act, bitWritten, hl]
  | setAvailable level' available =>
    by_cases hl : level' = level
    · simp [act, bitWritten, hl, Signals.passed]
    · simp [act, bitWritten, hl]
  | clearResults => exact Signals.passed_clearResults i
  | setPolicy policy => rfl
  | acknowledge => rfl

end Op

def latest {α : Type} (f : Op → Option α) (ops : List Op) : Option α :=
  (ops.filterMap f).getLast?

def sinceNamed (level : Level) (ops : List Op) : List Op :=
  ops.rtakeWhile fun op => (op.renamedTo level).isNone

variable {policy : Policy} {ops : List Op} {op : Op} {level : Level} {s : Signals}

lemma latest_concat {α : Type} (f : Op → Option α) : latest f (ops ++ [op]) = (f op).or (latest f ops) := by
  rw [latest, List.filterMap_append, List.getLast?_append]
  cases hf : f op <;> simp [latest, hf]

lemma sinceNamed_concat (h : op.renamedTo level = none) :
    sinceNamed level (ops ++ [op]) = sinceNamed level ops ++ [op] := by
  simp [sinceNamed, h]

lemma sinceNamed_concat_renamed {names : List String} (h : op.renamedTo level = some names) :
    sinceNamed level (ops ++ [op]) = [] := by
  simp [sinceNamed, h]

structure Tells (level : Level) (ops : List Op) (s : Signals) : Prop where
  names : s.names = ((latest (Op.renamedTo level) ops).getD []).eraseDups
  passed : ∀ i, s.passed i = true ↔ i < s.names.length ∧
    latest (Op.bitWritten level s.names i) (sinceNamed level ops) = some true
  available : s.available = (latest (Op.sourceMarked level) ops).getD false

lemma available_concat (ha : s.available = (latest (Op.sourceMarked level) ops).getD false) :
    (op.act level s).available = (latest (Op.sourceMarked level) (ops ++ [op])).getD false := by
  rw [Op.available_act, latest_concat, ha]
  cases op.sourceMarked level <;> rfl

lemma Tells.concat_renamed {names : List String} (ht : Tells level ops s)
    (h : op.renamedTo level = some names) : Tells level (ops ++ [op]) (op.act level s) := by
  refine ⟨?_, ?_, available_concat ht.available⟩
  · rw [Op.act_of_renamedTo h, Signals.names_setNames, latest_concat, h]
    rfl
  · intro i
    rw [Op.act_of_renamedTo h, Signals.passed_setNames, sinceNamed_concat_renamed h]
    simp [latest]

lemma Tells.concat (ht : Tells level ops s) (hs : s.Consistent) (h : op.renamedTo level = none) :
    Tells level (ops ++ [op]) (op.act level s) := by
  have hn : (op.act level s).names = s.names := (Op.act_sameNames h).1
  refine ⟨?_, ?_, available_concat ht.available⟩
  · rw [hn, latest_concat, h]
    exact ht.names
  · intro i
    rw [hn, sinceNamed_concat h, latest_concat]
    by_cases hi : i < s.names.length
    · rw [Op.passed_act hs h hi]
      cases hb : op.bitWritten level s.names i with
      | none => exact ht.passed i
      | some bit => simp [hi]
    · have hp : (op.act level s).passed i ≠ true := by
        intro hp
        have hl := Signals.passed_lt (op.act_consistent hs) hp
        rw [hn] at hl
        exact hi hl
      simp [hp, hi]

lemma run_concat : run policy (ops ++ [op]) = op.apply (run policy ops) :=
  run_append policy ops [op]

lemma run_tells (policy : Policy) (ops : List Op) (level : Level) :
    Tells level ops ((run policy ops).signals level) := by
  induction ops using List.reverseRecOn with
  | nil =>
    constructor
    · cases level <;> rfl
    · intro i
      cases level <;> simp [run, runFrom, empty, signals, Signals.passed]
    · cases level <;> rfl
  | append_singleton ops op ih =>
    have hs : ((run policy ops).signals level).Consistent := run_consistent policy ops level
    rw [run_concat, Op.signals_apply]
    cases h : op.renamedTo level with
    | some names => exact ih.concat_renamed h
    | none => exact ih.concat hs h

lemma updated_run : (run policy ops).updated = true ↔
    Op.acknowledge ∉ ops.rtakeWhile fun op => !op.renames := by
  induction ops using List.reverseRecOn with
  | nil => simp [run, runFrom, empty]
  | append_singleton ops op ih =>
    rw [run_concat, Op.updated_apply, List.rtakeWhile_concat]
    cases hn : op.renames with
    | true => simp
    | false =>
      simp only [Bool.false_or, Bool.and_eq_true, decide_eq_true_eq, Bool.not_false, if_true,
        List.mem_append, List.mem_singleton, not_or, ih]
      exact and_comm.trans (and_congr_right fun _ => ne_comm)

lemma signals_run_concerns (policy policy' : Policy) (ops : List Op) (level : Level) :
    (run policy' (ops.filter (Op.concerns level))).signals level = (run policy ops).signals level := by
  induction ops using List.reverseRecOn with
  | nil => cases level <;> rfl
  | append_singleton ops op ih =>
    rw [List.filter_append, run_concat, Op.signals_apply]
    cases hc : op.concerns level with
    | true => simp [hc, run_concat, Op.signals_apply, ih]
    | false => simp [hc, Op.act_of_not_concerns hc, ih]

theorem context_tells_history (policy : Policy) (ops : List Op) (level : Level) :
    (run policy ops).context.knownNames level =
      ((latest (Op.renamedTo level) ops).getD []).eraseDups ∧
    (∀ i, (run policy ops).context.passed level i = true ↔
      i < ((run policy ops).context.knownNames level).length ∧
        latest (Op.bitWritten level ((run policy ops).context.knownNames level) i)
          (sinceNamed level ops) = some true) ∧
    (run policy ops).context.hasSource level = (latest (Op.sourceMarked level) ops).getD false ∧
    ((run policy ops).context.updated = true ↔
      Op.acknowledge ∉ ops.rtakeWhile fun op => !op.renames) ∧
    ∀ policy', (run policy' (ops.filter (Op.concerns level))).signals level =
      (run policy ops).signals level := by
  obtain ⟨hn, hp, ha⟩ := run_tells policy ops level
  refine ⟨hn, hp, ha, updated_run, ?_⟩
  intro policy'
  exact signals_run_concerns policy policy' ops level

end Table

end TriggerLogic
