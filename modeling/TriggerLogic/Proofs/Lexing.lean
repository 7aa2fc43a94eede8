import Mathlib.Tactic.Lemma
import TriggerLogic.Token

namespace TriggerLogic

open Token

def Token.Ended (ts : List Token) : Prop :=
  ∃ body p, ts = body ++ [⟨.stop, p⟩] ∧ .stop ∉ body.map Token.kind

lemma Token.Ended.cons {t : Token} {ts : List Token} (h : Ended ts) (ht : t.kind ≠ .stop) :
    Ended (t :: ts) := by
  obtain ⟨body, p, rfl, hb⟩ := h
  exact ⟨t :: body, p, rfl, by simpa [ht.symm] using hb⟩

lemma Lexer.tokens_ended (l : Lexer) {ts : List Token} (h : l.tokens = .ok ts) : Ended ts := by
  fun_induction Lexer.tokens l generalizing ts with
  | case1 => cases h
  | case2 l t l' _ hs =>
    cases h
    exact ⟨[], t.position, by rw [← hs]; rfl, by simp⟩
  | case3 l t l' _ hs ih =>
    cases hr : l'.tokens with
    | error e => simp [hr, Functor.map, Except.map] at h
    | ok us =>
      simp only [hr, Functor.map, Except.map, Except.ok.injEq] at h
      exact h ▸ (ih hr).cons hs

lemma tokenize_ended {text : String} {ts : List Token} (h : tokenize text = .ok ts) : Ended ts :=
  Lexer.tokens_ended _ h

end TriggerLogic
