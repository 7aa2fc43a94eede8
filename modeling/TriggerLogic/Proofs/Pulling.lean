import Mathlib.Data.Nat.Find
import Mathlib.Tactic.Lemma
import TriggerLogic.Proofs.Spelling

/-! Both ways of pulling a token walk along the same answers, and the last of these comes again for
ever. -/

namespace TriggerLogic

open Token

namespace Lexer

inductive Call where
  | next
  | pull
deriving DecidableEq, Repr

abbrev Answer := Except LexError Token

def IsFinal : Answer → Prop
  | .error _ => True
  | .ok t => t.kind = .stop

instance : DecidablePred IsFinal
  | .error _ => inferInstanceAs (Decidable True)
  | .ok t => inferInstanceAs (Decidable (t.kind = .stop))

def answer (l : Lexer) : Call → Option Answer
  | .next => some l.next.1
  | .pull => l.pull.1

def step (l : Lexer) : Call → Lexer
  | .next => l.next.2
  | .pull => l.pull.2

def after (l : Lexer) : List Call → Lexer
  | [] => l
  | call :: past => (l.after past).step call

def log (l : Lexer) : List Call → List (Call × Option Answer)
  | [] => []
  | call :: past => (call, (l.after past).answer call) :: l.log past

def answered (l : Lexer) (past : List Call) : Nat :=
  (l.log past).countP fun entry => entry.2.isSome

def reply (l : Lexer) (n : Nat) : Answer :=
  (l.after (List.replicate n .next)).next.1

def SamePlace (l m : Lexer) : Prop :=
  l.rest = m.rest ∧ l.position = m.position

variable {l m : Lexer} {call : Call} {past : List Call} {a : Answer}

lemma SamePlace.advance (h : l.SamePlace m) (n : Nat) : (l.advance n).SamePlace (m.advance n) :=
  ⟨congrArg (List.drop n) h.1, congrArg (· + n) h.2⟩

lemma SamePlace.skipBlanks (h : l.SamePlace m) : l.skipBlanks.SamePlace m.skipBlanks := by
  rw [Lexer.skipBlanks, Lexer.skipBlanks, h.1]
  exact h.advance _

lemma SamePlace.here (h : l.SamePlace m) : l.here.1 = m.here.1 ∧ l.here.2.SamePlace m.here.2 := by
  rw [Lexer.here, Lexer.here, h.1, h.2]
  cases m.rest with
  | nil => exact ⟨rfl, h⟩
  | cons c cs =>
    dsimp only
    split
    · exact ⟨rfl, h.advance 1⟩
    · split
      · exact ⟨rfl, h.advance 1⟩
      · split
        · exact ⟨rfl, h.advance _⟩
        · exact ⟨rfl, h⟩

lemma SamePlace.next (h : l.SamePlace m) : l.next.1 = m.next.1 ∧ l.next.2.SamePlace m.next.2 :=
  h.skipBlanks.here

lemma pull_of_finished (h : l.finished = true) : l.pull = (none, l) := by
  rw [pull, if_pos h]

lemma pull_of_not_finished (h : l.finished = false) :
    l.pull = (some l.next.1, { l.next.2 with finished := decide (IsFinal l.next.1) }) := by
  rw [pull, if_neg (by simp [h])]
  rcases l.next with ⟨err | t, m⟩
  · rfl
  · rfl

lemma pull_eq_none_iff : l.answer .pull = none ↔ l.finished = true := by
  cases hf : l.finished with
  | true => simp [answer, pull_of_finished hf]
  | false => simp [answer, pull_of_not_finished hf]

lemma finished_next (l : Lexer) : l.next.2.finished = l.finished := by
  rw [next, here]
  split
  · rfl
  · split
    · rfl
    · split
      · rfl
      · split
        · rfl
        · rfl

lemma step_of_answer_none (h : l.answer call = none) : l.step call = l := by
  cases call with
  | next => cases h
  | pull =>
    cases hf : l.finished with
    | true => rw [step, pull_of_finished hf]
    | false => simp [answer, pull_of_not_finished hf] at h

lemma step_of_answer_some (h : l.answer call = some a) :
    a = l.next.1 ∧ (l.step call).SamePlace l.next.2 := by
  cases call with
  | next =>
    cases h
    exact ⟨rfl, rfl, rfl⟩
  | pull =>
    cases hf : l.finished with
    | true => simp [answer, pull_of_finished hf] at h
    | false =>
      rw [answer, pull_of_not_finished hf] at h
      cases h
      rw [step, pull_of_not_finished hf]
      exact ⟨rfl, rfl, rfl⟩

lemma answered_cons_of_none (h : (l.after past).answer call = none) :
    l.answered (call :: past) = l.answered past := by
  simp [answered, log, h]

lemma answered_cons_of_some (h : (l.after past).answer call = some a) :
    l.answered (call :: past) = l.answered past + 1 := by
  simp [answered, log, h]

lemma after_samePlace (l : Lexer) (past : List Call) :
    (l.after past).SamePlace (l.after (List.replicate (l.answered past) .next)) := by
  -- Calls that answer go on as `next` does, the others go nowhere.
  induction past with
  | nil => exact ⟨rfl, rfl⟩
  | cons call past ih =>
    cases h : (l.after past).answer call with
    | none =>
      rw [after, step_of_answer_none h, answered_cons_of_none h]
      exact ih
    | some a =>
      obtain ⟨-, hr, hp⟩ := step_of_answer_some h
      rw [answered_cons_of_some h, List.replicate_succ]
      exact ⟨hr.trans ih.next.2.1, hp.trans ih.next.2.2⟩

lemma eq_reply (h : (l.after past).answer call = some a) : a = l.reply (l.answered past) :=
  (step_of_answer_some h).1.trans (l.after_samePlace past).next.1

lemma skipBlanks_skipBlanks (l : Lexer) : l.skipBlanks.skipBlanks = l.skipBlanks := by
  have hn : l.skipBlanks.rest.takeWhile isBlank = [] := by
    rw [rest_skipBlanks, List.takeWhile_eq_nil_iff]
    intro hl
    have hb : isBlank ((l.rest.dropWhile isBlank).head (List.ne_nil_of_length_pos hl)) = false :=
      List.head_dropWhile_not isBlank _
    rw [List.get_mk_zero, hb]
    exact Bool.false_ne_true
  rw [skipBlanks, hn]
  rfl

lemma here_of_final (h : IsFinal l.here.1) : l.here.2 = l := by
  rcases hh : l.here with ⟨err | t, m⟩
  · exact (here_error hh).1
  · obtain ⟨hr, -⟩ | hd := here_cases hh
    · rw [here, hr] at hh
      cases hh
      rfl
    · rw [hh] at h
      exact absurd h hd.ne_stop

lemma next_of_final (h : IsFinal l.next.1) : l.next.2.next = l.next := by
  rw [next] at h
  rw [next, next, here_of_final h, skipBlanks_skipBlanks]

lemma after_concat (l : Lexer) (past : List Call) (call : Call) :
    l.after (past ++ [call]) = (l.step call).after past := by
  induction past with
  | nil => rfl
  | cons call' past ih => exact congrArg (step · call') ih

lemma reply_succ (l : Lexer) (n : Nat) : l.reply (n + 1) = l.next.2.reply n := by
  rw [reply, List.replicate_succ', after_concat]
  rfl

lemma reply_of_final (h : IsFinal l.next.1) (n : Nat) : l.reply n = l.next.1 := by
  induction n generalizing l with
  | zero => rfl
  | succ n ih =>
    have hn : l.next.2.next = l.next := next_of_final h
    rw [reply_succ, ih (by rwa [hn]), hn]

lemma exists_final (l : Lexer) : ∃ k, IsFinal (l.reply k) := by
  fun_induction tokens l with
  | case1 l err m h => exact ⟨0, by simp [reply, after, h, IsFinal]⟩
  | case2 l t m h hs => exact ⟨0, by simp [reply, after, h, IsFinal, hs]⟩
  | case3 l t m h hs ih =>
    obtain ⟨k, hk⟩ := ih
    exact ⟨k + 1, by rwa [reply_succ, h]⟩

lemma reply_add {k : Nat} (h : IsFinal (l.reply k)) (n : Nat) : l.reply (k + n) = l.reply k := by
  induction k generalizing l with
  | zero =>
    rw [Nat.zero_add]
    exact reply_of_final h n
  | succ k ih =>
    rw [reply_succ] at h ⊢
    rw [Nat.add_right_comm, reply_succ, ih h]

lemma finished_step : (l.step call).finished = true ↔
    l.finished = true ∨ ∃ a, IsFinal a ∧ call = .pull ∧ l.answer call = some a := by
  cases call with
  | next => simp [step, finished_next]
  | pull =>
    cases hf : l.finished with
    | true => simp [step, pull_of_finished hf, hf]
    | false => simp [step, answer, pull_of_not_finished hf]

lemma finished_after (l : Lexer) (past : List Call) : (l.after past).finished = true ↔
    l.finished = true ∨ ∃ a, IsFinal a ∧ (.pull, some a) ∈ l.log past := by
  induction past with
  | nil => simp [after, log]
  | cons call past ih =>
    rw [after, finished_step, ih, or_assoc, ← exists_or]
    refine or_congr_right (exists_congr fun a => ?_)
    rw [log, List.mem_cons, Prod.mk.injEq, ← and_or_left, eq_comm (a := some a),
      eq_comm (a := Call.pull), or_comm]

lemma exists_of_mem_log {entry : Call × Option Answer} (h : entry ∈ l.log past) :
    ∃ past', entry.2 = (l.after past').answer entry.1 := by
  induction past with
  | nil => cases h
  | cons call past ih =>
    obtain rfl | h := List.mem_cons.mp h
    · exact ⟨past, rfl⟩
    · exact ih h

lemma reply_min {k : Nat} (h : IsFinal (l.reply k)) (n : Nat) : l.reply n = l.reply (min n k) := by
  rcases Nat.le_total n k with hn | hn
  · rw [Nat.min_eq_left hn]
  · obtain ⟨m, rfl⟩ := Nat.exists_eq_add_of_le hn
    rw [Nat.min_eq_right hn, reply_add h]

lemma eq_reply_of_mem_log {k : Nat} (hk : IsFinal (l.reply k)) (hj : ∀ j < k, ¬IsFinal (l.reply j))
    (ha : IsFinal a) (h : (call, some a) ∈ l.log past) : a = l.reply k := by
  obtain ⟨past', hp⟩ := exists_of_mem_log h
  have he : a = l.reply (min (l.answered past') k) := (eq_reply hp.symm).trans (reply_min hk _)
  have hle : k ≤ l.answered past' := by
    by_contra hlt
    rw [Nat.min_eq_left (by omega)] at he
    exact hj _ (by omega) (he ▸ ha)
  rwa [Nat.min_eq_right hle] at he

theorem answers_interleaved (text : String) :
    let fresh := ofText text
    ∃ k, IsFinal (fresh.reply k) ∧ (∀ j < k, ¬IsFinal (fresh.reply j)) ∧
      ∀ past,
        (∀ call a, (fresh.after past).answer call = some a →
          a = fresh.reply (min (fresh.answered past) k)) ∧
        (fresh.after past).answer .next ≠ none ∧
        ((fresh.after past).answer .pull = none ↔ (.pull, some (fresh.reply k)) ∈ fresh.log past) := by
  intro fresh
  let k := Nat.find fresh.exists_final
  have hk : IsFinal (fresh.reply k) := Nat.find_spec fresh.exists_final
  have hj : ∀ j < k, ¬IsFinal (fresh.reply j) := fun j hj => Nat.find_min fresh.exists_final hj
  refine ⟨k, hk, hj, fun past => ⟨fun call a h => (eq_reply h).trans (reply_min hk _), ?_, ?_⟩⟩
  · exact Option.some_ne_none _
  · rw [pull_eq_none_iff, finished_after]
    constructor
    · rintro (hf | ⟨a, hf, hmem⟩)
      · cases hf
      · exact eq_reply_of_mem_log hk hj hf hmem ▸ hmem
    · exact fun hmem => .inr ⟨_, hk, hmem⟩

end Lexer

end TriggerLogic
