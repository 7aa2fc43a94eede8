import TriggerLogic.Proofs.Diagnosis
import TriggerLogic.Proofs.Reading
import Mathlib.Tactic.ByContra

namespace TriggerLogic

open Token

namespace Token

variable {place : Nat → Nat} {ts : List Token}

def relocate (place : Nat → Nat) (t : Token) : Token :=
  { t with position := place t.position }

lemma map_kind_relocate : (ts.map (relocate place)).map kind = ts.map kind := by
  rw [List.map_map]
  rfl

lemma Ended.relocate (h : Ended ts) : Ended (ts.map (relocate place)) := by
  obtain ⟨body, p, rfl, hb⟩ := h
  exact ⟨body.map (relocate place), place p, by simp [relocate], by rwa [map_kind_relocate]⟩

end Token

namespace ParseError

def relocate (place : Nat → Nat) : ParseError → ParseError
  | lexical e => lexical { e with position := place e.position }
  | empty => empty
  | missingOperand op p => missingOperand op (place p)
  | unexpected k p => unexpected k (place p)
  | unbalanced p => unbalanced (place p)
  | trailing k p => trailing k (place p)

def position? : ParseError → Option Nat
  | lexical e => some e.position
  | empty => none
  | missingOperand _ p | unexpected _ p | unbalanced p | trailing _ p => some p

lemma position?_relocate (place : Nat → Nat) (err : ParseError) :
    (err.relocate place).position? = err.position?.map place := by
  cases err <;> rfl

end ParseError

namespace Diagnosis

variable {place : Nat → Nat} {s s' : State} {t : Token} {ts : List Token}

def Mode.relocate (place : Nat → Nat) : Mode → Mode
  | operand previous => operand (previous.map (Token.relocate place))
  | operator => operator

def State.relocate (place : Nat → Nat) (s : State) : State :=
  ⟨s.mode.relocate place, s.opens.map place⟩

lemma fault_relocate (previous : Option Token) :
    fault (previous.map (Token.relocate place)) (t.relocate place) =
      (fault previous t).relocate place := by
  rcases previous with _ | ⟨k, p⟩
  · by_cases hs : t.kind = .stop
    · simp [fault, Token.relocate, ParseError.relocate, hs]
    · simp [fault, Token.relocate, ParseError.relocate, hs]
  · cases k <;> rfl

lemma step_relocate : (s.relocate place).step (t.relocate place) =
    ((s.step t).map (Option.map (State.relocate place))).mapError (ParseError.relocate place) := by
  obtain ⟨mode, opens⟩ := s
  obtain ⟨k, p⟩ := t
  cases mode with
  | operand previous =>
    have hf : fault (previous.map (Token.relocate place)) ⟨k, place p⟩ =
        (fault previous ⟨k, p⟩).relocate place := fault_relocate (t := ⟨k, p⟩) previous
    cases k with
    | constant value => rfl
    | name word => rfl
    | openParen => rfl
    | operator op =>
      cases op with
      | not => rfl
      | and => exact congrArg Except.error hf
      | or => exact congrArg Except.error hf
    | closeParen => exact congrArg Except.error hf
    | stop => exact congrArg Except.error hf
  | operator =>
    cases k with
    | operator op => cases op <;> cases opens <;> rfl
    | _ => cases opens <;> rfl

lemma ne_stop_of_step (h : s.step t = .ok (some s')) : t.kind ≠ .stop := by
  obtain ⟨mode, opens⟩ := s
  intro hk
  cases mode with
  | operand previous => simp [State.step, hk] at h
  | operator => cases opens <;> simp [State.step, hk] at h

lemma run_relocate (h : .stop ∈ ts.map Token.kind) :
    run (s.relocate place) (ts.map (Token.relocate place)) =
      (run s ts).mapError (ParseError.relocate place) := by
  induction ts generalizing s with
  | nil => simp at h
  | cons t ts ih =>
    rw [List.map_cons, run, run, step_relocate]
    rcases hs : s.step t with err | _ | s'
    · rfl
    · rfl
    · rw [List.map_cons, List.mem_cons] at h
      exact ih (h.resolve_left (ne_stop_of_step hs).symm)

end Diagnosis

namespace Parse

open Diagnosis

variable {place : Nat → Nat} {ts : List Token}

lemma ofTokens_relocate (h : Ended ts) :
    ofTokens (ts.map (Token.relocate place)) = (ofTokens ts).mapError (ParseError.relocate place) := by
  have hs : .stop ∈ ts.map Token.kind := by
    obtain ⟨body, p, rfl, -⟩ := h
    simp
  cases ho : ofTokens ts with
  | ok e =>
    refine (Grammar.ofTokens_eq_ok_iff h.relocate).mpr ?_
    rw [List.map_dropLast, map_kind_relocate, ← List.map_dropLast]
    exact (Grammar.ofTokens_eq_ok_iff h).mp ho
  | error err =>
    have hr : run start ts = .error err := by
      rw [← ofTokens_eq_run, ho]
      rfl
    have hr' : run start (ts.map (Token.relocate place)) = .error (err.relocate place) := by
      have hn : run (start.relocate place) (ts.map (Token.relocate place)) =
          (run start ts).mapError (ParseError.relocate place) := run_relocate hs
      rwa [hr] at hn
    rw [← ofTokens_eq_run] at hr'
    cases hx : ofTokens (ts.map (Token.relocate place)) with
    | ok e => simp [hx, Except.map] at hr'
    | error err' => simpa [hx, Except.map, Except.mapError] using hr'

def numbered (ks : List Kind) : List Token :=
  ks.mapIdx fun i k => ⟨k, i⟩

lemma map_kind_numbered (ks : List Kind) : (numbered ks).map Token.kind = ks := by
  apply List.ext_getElem?
  intro i
  simp [numbered, Function.comp_def]

lemma relocate_numbered (ts : List Token) :
    (numbered (ts.map Token.kind)).map (Token.relocate fun i => (ts.map Token.position).getD i 0) = ts := by
  apply List.ext_getElem?
  intro i
  cases h : ts[i]? <;> simp [numbered, Token.relocate, h]

lemma ended_numbered {ks : List Kind} (h : .stop ∉ ks) : Ended (numbered (ks ++ [.stop])) := by
  refine ⟨numbered ks, ks.length, ?_, by rwa [map_kind_numbered]⟩
  simp [numbered, List.mapIdx_append]

lemma position_le_of_numbered {ks : List Kind} (h : .stop ∉ ks) {err : ParseError}
    (he : ofTokens (numbered (ks ++ [.stop])) = .error err) {i : Nat} (hi : err.position? = some i) :
    i ≤ ks.length := by
  -- Numbers past the end could be changed and nobody would notice, so the error has none of them.
  let place : Nat → Nat := fun i => if i ≤ ks.length then i else 0
  have hp : (numbered (ks ++ [.stop])).map (Token.relocate place) = numbered (ks ++ [.stop]) := by
    rw [List.map_congr_left (g := id), List.map_id]
    intro t ht
    obtain ⟨j, hj, rfl⟩ := List.mem_mapIdx.mp ht
    have hle : j ≤ ks.length := by simpa [Nat.lt_succ_iff] using hj
    simp [Token.relocate, place, hle]
  have hr : ofTokens ((numbered (ks ++ [.stop])).map (Token.relocate place)) =
      (ofTokens (numbered (ks ++ [.stop]))).mapError (ParseError.relocate place) :=
    ofTokens_relocate (ended_numbered h)
  rw [hp, he] at hr
  have hn := ParseError.position?_relocate place err
  rw [← Except.error.inj hr, hi] at hn
  have hpi : place i = i := (Option.some.inj hn).symm
  by_contra hgt
  simp only [place, if_neg hgt] at hpi
  omega

end Parse

end TriggerLogic
