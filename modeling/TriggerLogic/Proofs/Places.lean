import Mathlib.Data.List.Nodup
import TriggerLogic.Proofs.Policies
import TriggerLogic.Proofs.Trace

namespace TriggerLogic

namespace Signals

variable {s : Signals}

lemma Consistent.nodup_names (hs : s.Consistent) : s.names.Nodup := by
  rw [List.nodup_iff_getElem?_ne_getElem?]
  intro i j hij hj he
  have hn : s.names[j]? = some s.names[j] := List.getElem?_eq_getElem hj
  have hi := (hs.indexOf_eq_some _ i).mpr (he.trans hn)
  rw [(hs.indexOf_eq_some _ j).mpr hn] at hi
  cases hi
  exact Nat.lt_irrefl _ hij

lemma Consistent.lt_length_results (hs : s.Consistent) {name : String} {i : Nat}
    (hi : s.indexOf name = some i) : i < s.results.length := by
  obtain ⟨hl, -⟩ := List.getElem?_eq_some_iff.mp ((hs.indexOf_eq_some name i).mp hi)
  rwa [hs.length_results]

end Signals

namespace Table

theorem run_places (policy : Policy) (ops : List Op) (level : Level) :
    let s := (run policy ops).signals level
    s.names.Nodup ∧
    (∀ i (h : i < s.names.length), s.indexOf s.names[i] = some i) ∧
    (∀ name i, s.indexOf name = some i → s.names[i]? = some name) ∧
    s.results.length = s.names.length ∧
    ∀ name i bit, s.indexOf name = some i →
      i < s.results.length ∧ (s.setPassed name bit).results[i]? = some bit := by
  intro s
  have hs : s.Consistent := run_consistent policy ops level
  refine ⟨hs.nodup_names, ?_, ?_, hs.length_results, ?_⟩
  · intro i h
    exact (hs.indexOf_eq_some _ i).mpr (List.getElem?_eq_getElem h)
  · intro name i hi
    exact (hs.indexOf_eq_some name i).mp hi
  · intro name i bit hi
    have hr : i < s.results.length := hs.lt_length_results hi
    refine ⟨hr, ?_⟩
    simp [Signals.setPassed, hi, hr]

theorem run_places_repeated_and_empty :
    let s := (run .strict [.setNames .path ["", "A", ""], .setResults .path [true],
      .setNames .path ["B", "B", "", "A", ""], .setResults .path [false, true, true, true]]).signals .path
    s.names = ["B", "", "A"] ∧ s.indexOf "" = some 1 ∧ 1 < s.results.length ∧
      (s.setPassed "" false).results[1]? = some false := by
  obtain ⟨-, -, -, -, hw⟩ := run_places .strict [.setNames .path ["", "A", ""], .setResults .path [true],
    .setNames .path ["B", "B", "", "A", ""], .setResults .path [false, true, true, true]] .path
  exact ⟨rfl, rfl, hw "" 1 false rfl⟩

end Table

namespace Leaf

def selection (pattern : String) (names : List String) : List Binding :=
  (names.zipIdx.filter fun x => Glob.Matches pattern.toList x.1.toList).map fun x => ⟨x.1, x.2⟩

section

variable {l : Leaf} {t : Table} {b : Binding} {pattern : String} {names : List String}

lemma mem_selection : b ∈ selection pattern names ↔
    names[b.index]? = some b.name ∧ Glob.Matches pattern.toList b.name.toList := by
  simp only [selection, List.mem_map, List.mem_filter, List.mem_zipIdx_iff_getElem?, decide_eq_true_eq]
  constructor
  · rintro ⟨x, hx, rfl⟩
    exact hx
  · intro hb
    exact ⟨(b.name, b.index), hb, rfl⟩

lemma selection_ascends : ((selection pattern names).map Binding.index).Pairwise (· < ·) := by
  have hz : (names.zipIdx.map Prod.snd).Pairwise (· < ·) := by
    rw [List.zipIdx_map_snd]
    exact List.pairwise_lt_range' 1
  have hs : List.Sublist ((selection pattern names).map Binding.index) (names.zipIdx.map Prod.snd) := by
    rw [selection, List.map_map]
    exact List.filter_sublist.map Prod.snd
  exact hz.sublist hs

lemma lookup_eq_scan (ht : t.Consistent) (hg : l.isGlob = false) :
    l.lookup t.context = l.scan t.context (Glob.ofPattern l.pattern) := by
  have hs : (t.signals l.level).Consistent := ht l.level
  have hm : (Glob.ofPattern l.pattern).isMatch = fun name => decide (name = l.pattern) := by
    funext name
    rw [Bool.eq_iff_iff, Glob.isMatch_ofPattern_iff, decide_eq_true_iff, ← selects_iff_matches, Selects,
      if_neg fun h => by simp [isGlob_iff.mpr h] at hg]
  have hk : (t.context.indexOf l.level l.pattern).isSome = true ↔ l.pattern ∈ t.context.knownNames l.level :=
    Signals.isSome_indexOf_iff hs.indexOf_eq_some
  rw [scan, Glob.filter, hm, List.filter_eq, lookup]
  cases hi : t.context.indexOf l.level l.pattern with
  | none =>
    have hn : l.pattern ∉ t.context.knownNames l.level := by simpa [hi] using hk
    rw [List.count_eq_zero_of_not_mem hn]
    rfl
  | some i =>
    have hn : l.pattern ∈ t.context.knownNames l.level := by simpa [hi] using hk
    have ho : List.count l.pattern (t.context.knownNames l.level) = 1 :=
      List.count_eq_one_of_mem hs.nodup_names hn
    simp [ho, hi]

lemma scan_eq_selection (ht : t.Consistent) :
    l.scan t.context (Glob.ofPattern l.pattern) =
      selection l.pattern (t.context.knownNames l.level) := by
  have hz : t.context.knownNames l.level = (t.context.knownNames l.level).zipIdx.map Prod.fst :=
    (List.zipIdx_map_fst 0 _).symm
  have hi : ∀ x ∈ (t.context.knownNames l.level).zipIdx, t.context.indexOf l.level x.1 = some x.2 := by
    intro x hx
    exact ((ht l.level).indexOf_eq_some x.1 x.2).mpr (List.mem_zipIdx_iff_getElem?.mp hx)
  rw [scan, Glob.filter, selection]
  conv_lhs => rw [hz, List.filter_map, List.filterMap_map]
  rw [← List.filterMap_eq_map]
  have hf : Glob.isMatch (Glob.ofPattern l.pattern) ∘ Prod.fst =
      fun x : String × Nat => decide (Glob.Matches l.pattern.toList x.1.toList) := by
    funext x
    rw [Function.comp_apply, Bool.eq_iff_iff, Glob.isMatch_ofPattern_iff, decide_eq_true_iff]
  rw [hf]
  apply List.filterMap_congr
  intro x hx
  rw [Function.comp_apply, hi x (List.mem_of_mem_filter hx)]
  rfl

variable [RegexLibrary]

lemma resolve_of_consistent (ht : t.Consistent) (hc : l.Compiles) :
    l.resolve t.context =
      .ok (l.resolutionOf t.context (selection l.pattern (t.context.knownNames l.level))) := by
  rw [← scan_eq_selection ht, resolve]
  by_cases hg : l.isGlob = true
  · rw [if_pos hg, hc.compile_eq hg]
  · rw [if_neg hg, lookup_eq_scan ht (by simpa using hg)]

theorem resolve_run (policy : Policy) (ops : List Table.Op) (hc : l.Compiles) :
    ∃ r, l.resolve (Table.run policy ops).context = .ok r ∧
      r.bindings = selection l.pattern ((Table.run policy ops).context.knownNames l.level) ∧
      (r.bindings.map Binding.index).Pairwise (· < ·) ∧
      (∀ b, b ∈ r.bindings ↔
        ((Table.run policy ops).context.knownNames l.level)[b.index]? = some b.name ∧
          Glob.Matches l.pattern.toList b.name.toList) ∧
      ('*' ∉ l.pattern.toList → '?' ∉ l.pattern.toList → ∀ name : String,
        Glob.Matches l.pattern.toList name.toList ↔ name = l.pattern) ∧
      r.notice = if r.bindings = [] then
          some { pattern := l.pattern, level := l.level,
                 kind := if '*' ∈ l.pattern.toList ∨ '?' ∈ l.pattern.toList then .noMatch else .notFound,
                 knownNames := (Table.run policy ops).context.knownNames l.level }
        else none := by
  have ht : (Table.run policy ops).Consistent := Table.run_consistent policy ops
  refine ⟨_, resolve_of_consistent ht hc, rfl, selection_ascends, fun b => mem_selection, ?_, ?_⟩
  · intro hs hq name
    rw [Glob.matches_plain hs hq, String.toList_inj]
  · simp only [resolutionOf, List.isEmpty_iff, noticeKind, isGlob_iff]

end

theorem resolve_run_glob_over_repeated :
    ∃ r, (Leaf.mk "A?" .path [⟨"old", 9⟩] true).resolve
        (Table.run .strict [.setNames .path ["B", "A1", "B", "A", "A2"]]).context = .ok r ∧
      r.bindings = [⟨"A1", 1⟩, ⟨"A2", 3⟩] ∧ r.notice = none := by
  have hc : (Leaf.mk "A?" .path [⟨"old", 9⟩] true).Compiles := by decide
  obtain ⟨r, hr, hb, -, -, -, hn⟩ := resolve_run .strict [.setNames .path ["B", "A1", "B", "A", "A2"]] hc
  have hs : r.bindings = [⟨"A1", 1⟩, ⟨"A2", 3⟩] := hb.trans rfl
  refine ⟨r, hr, hs, ?_⟩
  rw [hn, hs]
  rfl

end Leaf

end TriggerLogic
