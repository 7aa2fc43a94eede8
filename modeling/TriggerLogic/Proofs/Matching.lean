import Mathlib.Data.List.Forall2
import Mathlib.Data.List.TakeWhile
import TriggerLogic.Glob

/-! A matcher that takes every part behind a run where it fits first answers for the language of the
pattern: when a part also fits further on, a run covers what lies between. -/

namespace TriggerLogic.Glob

/-- A name cut into pieces, one for each character of a pattern. -/
inductive Matches : List Char → List Char → Prop
  | nil : Matches [] []
  | anyRun {run p s} : (∀ c ∈ run, c ≠ '\n') → Matches p s → Matches ('*' :: p) (run ++ s)
  | anyOne {c p s} : c ≠ '\n' → Matches p s → Matches ('?' :: p) (c :: s)
  | literal {c p s} : c ≠ '*' → c ≠ '?' → Matches p s → Matches (c :: p) (c :: s)

inductive Fits : Glob → List Char → Prop
  | nil : Fits [] []
  | anyRun {run g s} : (∀ c ∈ run, isWild c = true) → Fits g s → Fits (.anyRun :: g) (run ++ s)
  | one {p c g s} : p ≠ .anyRun → p.accepts c = true → Fits g s → Fits (p :: g) (c :: s)

def Wild (s : List Char) : Prop :=
  ∀ c ∈ s, isWild c = true

def Covers (g : Glob) (s : List Char) : Prop :=
  List.Forall₂ (fun p c => p.accepts c = true) g s

variable {g h : Glob} {s run front rest : List Char}

lemma fits_map_ofChar {p s : List Char} : Fits (p.map Piece.ofChar) s ↔ Matches p s := by
  constructor
  · intro hf
    induction p generalizing s with
    | nil =>
      cases hf
      exact .nil
    | cons c p ih =>
      by_cases hs : c = '*'
      · subst hs
        cases hf with
        | anyRun hw hf => exact .anyRun (by simpa [isWild] using hw) (ih hf)
        | one hp => exact absurd rfl hp
      · by_cases hq : c = '?'
        · subst hq
          cases hf with
          | one _ ha hf => exact .anyOne (by simpa [Piece.ofChar, Piece.accepts, isWild] using ha) (ih hf)
        · rw [List.map_cons, show Piece.ofChar c = .literal c by simp [Piece.ofChar, hs, hq]] at hf
          cases hf with
          | one _ ha hf =>
            obtain rfl : _ = c := by simpa [Piece.accepts] using ha
            exact .literal hs hq (ih hf)
  · intro hm
    induction hm with
    | nil => exact .nil
    | anyRun hw _ ih => exact .anyRun (by simpa [isWild] using hw) ih
    | anyOne hc _ ih => exact .one (by simp [Piece.ofChar]) (by simpa [Piece.ofChar, Piece.accepts, isWild] using hc) ih
    | literal hs hq _ ih =>
      exact .one (by simp [Piece.ofChar, hs, hq]) (by simp [Piece.ofChar, Piece.accepts, hs, hq]) ih

lemma fits_nil : Fits [] s ↔ s = [] := by
  constructor
  · rintro ⟨⟩
    rfl
  · rintro rfl
    exact .nil

lemma fits_anyRun : Fits (.anyRun :: g) s ↔ ∃ run rest, s = run ++ rest ∧ Wild run ∧ Fits g rest := by
  constructor
  · rintro (_ | ⟨hw, hf⟩ | ⟨hp, _, _⟩)
    · exact ⟨_, _, rfl, hw, hf⟩
    · exact absurd rfl hp
  · rintro ⟨run, rest, rfl, hw, hf⟩
    exact .anyRun hw hf

lemma fits_append (hg : .anyRun ∉ g) :
    Fits (g ++ h) s ↔ ∃ front rest, s = front ++ rest ∧ Covers g front ∧ Fits h rest := by
  induction g generalizing s with
  | nil => simp [Covers]
  | cons p g ih =>
    rw [List.mem_cons, not_or] at hg
    constructor
    · rintro (_ | ⟨hw, hf⟩ | ⟨hp, ha, hf⟩)
      · exact absurd rfl hg.1
      · obtain ⟨front, rest, rfl, hc, hr⟩ := (ih hg.2).mp hf
        exact ⟨_ :: front, rest, rfl, .cons ha hc, hr⟩
    · rintro ⟨_, rest, rfl, hc, hr⟩
      cases hc with
      | cons ha hc => exact .one (Ne.symm hg.1) ha ((ih hg.2).mpr ⟨_, rest, rfl, hc, hr⟩)

lemma take_eq_some_iff : take g s = some rest ↔ ∃ front, s = front ++ rest ∧ Covers g front := by
  induction g generalizing s with
  | nil =>
    simp only [take, Covers, List.forall₂_nil_left_iff]
    constructor
    · rintro ⟨⟩
      exact ⟨[], rfl, rfl⟩
    · rintro ⟨_, rfl, rfl⟩
      rfl
  | cons p g ih =>
    cases s with
    | nil => simp [take, Covers]
    | cons c s =>
      rw [take]
      split
      · rename_i ha
        rw [ih]
        constructor
        · rintro ⟨front, rfl, hc⟩
          exact ⟨c :: front, rfl, .cons ha hc⟩
        · rintro ⟨_, hs, hc⟩
          cases hc with
          | cons _ hc =>
            cases hs
            exact ⟨_, rfl, hc⟩
      · rename_i ha
        simp only [reduceCtorEq, false_iff]
        rintro ⟨_, hs, hc⟩
        cases hc with
        | cons ha' _ =>
          cases hs
          exact ha ha'

lemma length_takeWhile_wild (h : Covers g s) :
    (s.takeWhile isWild).length = (g.takeWhile (· ≠ .literal '\n')).length := by
  induction h with
  | nil => rfl
  | @cons p c g s ha _ ih =>
    have hc : isWild c = decide (p ≠ .literal '\n') := by
      cases p with
      | literal d =>
        obtain rfl : c = d := by simpa [Piece.accepts] using ha
        simp [isWild]
      | anyRun => simpa [Piece.accepts] using ha
      | anyOne => simpa [Piece.accepts] using ha
    rw [List.takeWhile_cons, List.takeWhile_cons, hc]
    split
    · exact congrArg (· + 1) ih
    · rfl

lemma wild_of_length_takeWhile (h : (s.takeWhile isWild).length = s.length) : Wild s :=
  List.takeWhile_eq_self_iff.mp ((List.takeWhile_prefix isWild).eq_of_length h)

lemma length_takeWhile_append {s t : List Char} (hs : ¬ Wild s) :
    ((s ++ t).takeWhile isWild).length = (s.takeWhile isWild).length := by
  rw [List.takeWhile_append, if_neg]
  exact fun hl => hs (wild_of_length_takeWhile hl)

lemma Wild.append {s t : List Char} (hs : Wild s) (ht : Wild t) : Wild (s ++ t) := by
  intro c hc
  rcases List.mem_append.mp hc with hc | hc
  · exact hs c hc
  · exact ht c hc

lemma wild_of_covers_twice {front₀ rest₀ : List Char} (h₀ : Covers g front₀) (h : Covers g front)
    (hr : Wild run) (hn : run ≠ []) (hs : front₀ ++ rest₀ = run ++ (front ++ rest)) : Wild front := by
  by_contra hw
  -- Both places have their first line feed as far behind their start, and the run has none.
  have hl := length_takeWhile_wild h
  have hl₀ := length_takeWhile_wild h₀
  have hw₀ : ¬ Wild front₀ := by
    intro hw₀
    rw [← hl, List.takeWhile_eq_self_iff.mpr hw₀, h₀.length_eq.symm.trans h.length_eq] at hl₀
    exact hw (wild_of_length_takeWhile hl₀.symm)
  have hlen := congrArg (fun t => (t.takeWhile isWild).length) hs
  simp only [length_takeWhile_append hw₀, List.takeWhile_append_of_pos hr, List.length_append,
    length_takeWhile_append hw] at hlen
  exact hn (List.length_eq_zero_iff.mp (by omega))

lemma rest_of_covers_twice {front₀ rest₀ : List Char} (h₀ : Covers g front₀) (h : Covers g front)
    (hr : Wild run) (hs : front₀ ++ rest₀ = run ++ (front ++ rest)) :
    ∃ more, rest₀ = more ++ rest ∧ Wild more := by
  have hlen : front₀.length = front.length := h₀.length_eq.symm.trans h.length_eq
  have hw : Wild ((run ++ front).drop front₀.length) := by
    by_cases hn : run = []
    · subst hn
      simp [hlen, Wild]
    · exact fun c hc => hr.append (wild_of_covers_twice h₀ h hr hn hs) c (List.mem_of_mem_drop hc)
  refine ⟨_, ?_, hw⟩
  have hd := congrArg (List.drop front₀.length) hs
  rwa [List.drop_left, ← List.append_assoc, List.drop_append_of_le_length (by simp [hlen])] at hd

lemma take_append (h : Covers g front) : take g (front ++ rest) = some rest :=
  take_eq_some_iff.mpr ⟨front, rfl, h⟩

lemma takeFirst_eq_some (h : takeFirst g s = some rest) :
    ∃ run front, s = run ++ (front ++ rest) ∧ Wild run ∧ Covers g front := by
  induction s with
  | nil =>
    obtain ⟨front, hs, hc⟩ := take_eq_some_iff.mp h
    exact ⟨[], front, hs, by simp [Wild], hc⟩
  | cons c s ih =>
    rw [takeFirst] at h
    split at h
    · rename_i ht
      cases h
      obtain ⟨front, hs, hc⟩ := take_eq_some_iff.mp ht
      exact ⟨[], front, hs, by simp [Wild], hc⟩
    · split at h
      · rename_i hw
        obtain ⟨run, front, rfl, hr, hc⟩ := ih h
        exact ⟨c :: run, front, rfl, by simpa [Wild, hw] using hr, hc⟩
      · cases h

lemma takeFirst_append (hr : Wild run) (hc : Covers g front) :
    ∃ more, takeFirst g (run ++ (front ++ rest)) = some (more ++ rest) ∧ Wild more := by
  induction run with
  | nil =>
    refine ⟨[], ?_, by simp [Wild]⟩
    have ht : take g (front ++ rest) = some rest := take_append hc
    rw [List.nil_append]
    generalize front ++ rest = s at ht
    cases s with
    | nil => exact ht
    | cons c s => rw [takeFirst, ht]; rfl
  | cons c run ih =>
    rw [List.cons_append, takeFirst]
    split
    · rename_i rest₀ ht
      obtain ⟨front₀, hs, hc₀⟩ := take_eq_some_iff.mp ht
      obtain ⟨more, rfl, hm⟩ := rest_of_covers_twice hc₀ hc hr hs.symm
      exact ⟨more, rfl, hm⟩
    · rw [if_pos (hr c (by simp))]
      exact ih fun d hd => hr d (by simp [hd])

lemma fitsEnd_iff : fitsEnd g s = true ↔ ∃ run front, s = run ++ front ∧ Wild run ∧ Covers g front := by
  simp only [fitsEnd, Bool.and_eq_true, decide_eq_true_eq, List.all_eq_true]
  constructor
  · rintro ⟨⟨hl, hw⟩, ht⟩
    obtain ⟨front, hf, hc⟩ := take_eq_some_iff.mp ht
    rw [List.append_nil] at hf
    exact ⟨_, front, by rw [← hf, List.take_append_drop], hw, hc⟩
  · rintro ⟨run, front, rfl, hw, hc⟩
    have hl : (run ++ front).length - g.length = run.length := by
      rw [hc.length_eq, List.length_append, Nat.add_sub_cancel]
    rw [hl, List.take_left, List.drop_left]
    refine ⟨⟨by simp [hc.length_eq], hw⟩, ?_⟩
    have ht : take g (front ++ []) = some [] := take_append hc
    rwa [List.append_nil] at ht

def behind (more : List Glob) : Glob :=
  more.flatMap fun g => .anyRun :: g

lemma fits_behind_append {more : List Glob} (hm : more ≠ []) (hw : Wild run) (h : Fits (behind more) s) :
    Fits (behind more) (run ++ s) := by
  cases more with
  | nil => exact absurd rfl hm
  | cons g more =>
    obtain ⟨run', rest, rfl, hw', hf⟩ := fits_anyRun.mp h
    exact fits_anyRun.mpr ⟨run ++ run', rest, by simp, hw.append hw', hf⟩

lemma fits_behind_cons {more : List Glob} (hg : .anyRun ∉ g) :
    Fits (behind (g :: more)) s ↔ ∃ run front rest,
      s = run ++ (front ++ rest) ∧ Wild run ∧ Covers g front ∧ Fits (behind more) rest := by
  rw [behind, List.flatMap_cons, List.cons_append, fits_anyRun]
  constructor
  · rintro ⟨run, tail, rfl, hw, hf⟩
    obtain ⟨front, rest, rfl, hc, hr⟩ := (fits_append hg).mp hf
    exact ⟨run, front, rest, rfl, hw, hc, hr⟩
  · rintro ⟨run, front, rest, rfl, hw, hc, hr⟩
    exact ⟨run, _, rfl, hw, (fits_append hg).mpr ⟨front, rest, rfl, hc, hr⟩⟩

lemma matchRuns_iff {more : List Glob} (hm : ∀ g ∈ more, .anyRun ∉ g) :
    matchRuns more s = true ↔ Fits (behind more) s := by
  fun_induction matchRuns more s with
  | case1 s => simp [behind, fits_nil]
  | case2 last s =>
    rw [fits_behind_cons (hm last (by simp)), fitsEnd_iff]
    constructor
    · rintro ⟨run, front, rfl, hw, hc⟩
      exact ⟨run, front, [], by simp, hw, hc, .nil⟩
    · rintro ⟨run, front, rest, rfl, hw, hc, hr⟩
      cases fits_nil.mp hr
      exact ⟨run, front, by simp, hw, hc⟩
  | case3 g more s hne rest ht ih =>
    rw [ih fun g' hg' => hm g' (List.mem_cons_of_mem _ hg'), fits_behind_cons (hm g (by simp))]
    constructor
    · intro hr
      obtain ⟨run, front, rfl, hw, hc⟩ := takeFirst_eq_some ht
      exact ⟨run, front, rest, rfl, hw, hc, hr⟩
    · rintro ⟨run, front, rest', rfl, hw, hc, hr⟩
      -- The part may stand further to the left already; the next run covers what lies between.
      obtain ⟨between, hs, hb⟩ : ∃ m, takeFirst g (run ++ (front ++ rest')) = some (m ++ rest') ∧ Wild m :=
        takeFirst_append hw hc
      cases ht.symm.trans hs
      exact fits_behind_append hne hb hr
  | case4 g more s hne ht =>
    rw [fits_behind_cons (hm g (by simp))]
    simp only [Bool.false_eq_true, false_iff]
    rintro ⟨run, front, rest, rfl, hw, hc, -⟩
    obtain ⟨between, hs, -⟩ := takeFirst_append hw hc
    cases ht.symm.trans hs

lemma split_spec (g : Glob) :
    g = (split g).1 ++ behind (split g).2 ∧ .anyRun ∉ (split g).1 ∧
      ∀ h ∈ (split g).2, .anyRun ∉ h := by
  induction g with
  | nil => simp [split, behind]
  | cons p g ih =>
    rw [split]
    generalize split g = parts at ih ⊢
    obtain ⟨first, more⟩ := parts
    obtain ⟨hg, hf, hm⟩ := ih
    simp only at hg hf hm ⊢
    by_cases hp : p = .anyRun
    · simp only [if_pos hp]
      refine ⟨?_, by simp, ?_⟩
      · rw [hp, behind, List.flatMap_cons, List.nil_append, List.cons_append, ← behind, ← hg]
      · intro h hh
        rcases List.mem_cons.mp hh with rfl | hh
        · exact hf
        · exact hm h hh
    · simp only [if_neg hp]
      refine ⟨congrArg (p :: ·) hg, ?_, hm⟩
      rw [List.mem_cons, not_or]
      exact ⟨Ne.symm hp, hf⟩

lemma isMatch_iff_fits {name : String} : isMatch g name = true ↔ Fits g name.toList := by
  obtain ⟨hg, hf, hm⟩ := split_spec g
  conv_rhs => rw [hg, fits_append hf]
  rw [isMatch]
  constructor
  · intro h
    cases ht : take (split g).1 name.toList with
    | none => simp [ht] at h
    | some rest =>
      obtain ⟨front, hs, hc⟩ := take_eq_some_iff.mp ht
      exact ⟨front, rest, hs, hc, (matchRuns_iff hm).mp (by simpa [ht] using h)⟩
  · rintro ⟨front, rest, hs, hc, hr⟩
    simp [hs, take_append hc, (matchRuns_iff hm).mpr hr]

lemma isMatch_ofPattern_iff {pattern name : String} :
    isMatch (ofPattern pattern) name = true ↔ Matches pattern.toList name.toList :=
  isMatch_iff_fits.trans fits_map_ofChar

instance (pattern name : String) : Decidable (Matches pattern.toList name.toList) :=
  decidable_of_iff _ isMatch_ofPattern_iff

lemma matches_plain {p : List Char} (hs : '*' ∉ p) (hq : '?' ∉ p) : Matches p s ↔ s = p := by
  induction p generalizing s with
  | nil =>
    constructor
    · rintro ⟨⟩
      rfl
    · rintro rfl
      exact .nil
  | cons c p ih =>
    rw [List.mem_cons, not_or] at hs hq
    constructor
    · rintro (_ | _ | _ | ⟨-, -, hm⟩)
      · exact absurd rfl hs.1
      · exact absurd rfl hq.1
      · rw [(ih hs.2 hq.2).mp hm]
    · rintro rfl
      exact .literal (Ne.symm hs.1) (Ne.symm hq.1) ((ih hs.2 hq.2).mpr rfl)

end TriggerLogic.Glob
