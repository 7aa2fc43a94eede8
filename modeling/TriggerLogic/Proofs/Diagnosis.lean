import TriggerLogic.Proofs.Descent

/-! What is wrong with a rejected condition, told in one pass over its tokens. -/

namespace TriggerLogic.Diagnosis

open Token Grammar Parse

inductive Mode where
  | operand (previous : Option Token)
  | operator
deriving DecidableEq, Repr

structure State where
  mode : Mode
  opens : List Nat
deriving DecidableEq, Repr

def start : State := ⟨.operand none, []⟩

def fault (previous : Option Token) (found : Token) : ParseError :=
  match previous with
  | some ⟨.operator op, p⟩ => .missingOperand op p
  | some _ => .unexpected found.kind found.position
  | none => if found.kind = .stop then .empty else .unexpected found.kind found.position

/-- The state behind a token, or none when the token ends a condition. -/
def State.step (s : State) (t : Token) : Except ParseError (Option State) :=
  match s.mode with
  | .operand previous =>
    match t.kind with
    | .constant _ | .name _ => .ok (some ⟨.operator, s.opens⟩)
    | .openParen => .ok (some ⟨.operand (some t), t.position :: s.opens⟩)
    | .operator .not => .ok (some ⟨.operand (some t), s.opens⟩)
    | _ => .error (fault previous t)
  | .operator =>
    match t.kind, s.opens with
    | .operator .and, _ | .operator .or, _ => .ok (some ⟨.operand (some t), s.opens⟩)
    | .closeParen, _ :: opens => .ok (some ⟨.operator, opens⟩)
    | .closeParen, [] => .error (.unbalanced t.position)
    | .stop, [] => .ok none
    | _, p :: _ => .error (.unbalanced p)
    | k, [] => .error (.trailing k t.position)

def run : State → List Token → Except ParseError Unit
  | s, [] => (s.step (peek [])).map fun _ => ()
  | s, t :: ts =>
    match s.step t with
    | .error err => .error err
    | .ok none => .ok ()
    | .ok (some s') => run s' ts

variable {s s' : State} {t : Token} {ts mid rest : List Token} {e left : Expr} {err : ParseError}
variable {previous : Option Token} {opens : List Nat}

lemma run_of_step_error (h : s.step (peek ts) = .error err) : run s ts = .error err := by
  cases ts with
  | nil => rw [run, h]; rfl
  | cons t ts => rw [run, show s.step t = _ from h]

lemma run_of_step_none (h : s.step (peek ts) = .ok none) : run s ts = .ok () := by
  cases ts with
  | nil => rw [run, h]; rfl
  | cons t ts => rw [run, show s.step t = _ from h]

lemma run_cons (h : s.step t = .ok (some s')) : run s (t :: ts) = run s' ts := by
  rw [run, h]

lemma run_lacksOperand (h : lacksOperand ts = true) :
    run ⟨.operand previous, opens⟩ ts = .error (fault previous (peek ts)) := by
  apply run_of_step_error
  rw [lacksOperand] at h
  rw [State.step]
  split at h
  · rename_i op hk
    cases op <;> simp_all [Operator.isBinary]
  · simp [*]
  · simp [*]
  · cases h

lemma run_append {sym : Symbol} (h : Derives sym (ts.map Token.kind) e) :
    ∀ {rest previous opens},
      run ⟨.operand previous, opens⟩ (ts ++ rest) = run ⟨.operator, opens⟩ rest := by
  induction h using Derives.token_induction with
  | conjunction _ _ _ ih => exact ih
  | unary _ _ _ ih => exact ih
  | primary _ _ _ ih => exact ih
  | or ts p ts' l r _ _ ihl ihr =>
    intro rest previous opens
    rw [List.append_assoc, List.cons_append, ihl, run_cons rfl, ihr]
  | and ts p ts' l r _ _ ihl ihr =>
    intro rest previous opens
    rw [List.append_assoc, List.cons_append, ihl, run_cons rfl, ihr]
  | not p ts e _ ih =>
    intro rest previous opens
    rw [List.cons_append, run_cons rfl, ih]
  | constant b p => exact run_cons rfl
  | name n p => exact run_cons rfl
  | group p ts q e _ ih =>
    intro rest previous opens
    rw [List.cons_append, List.append_assoc, run_cons rfl, ih, List.singleton_append, run_cons rfl]

lemma run_takes {sym : Symbol} (h : Takes sym ts e rest) :
    run ⟨.operand previous, opens⟩ ts = run ⟨.operator, opens⟩ rest := by
  obtain ⟨used, rfl, hd⟩ := h
  exact run_append hd

lemma run_unclosed {p : Nat} (hf : Follow .disjunction ts) (hc : (peek ts).kind ≠ .closeParen) :
    run ⟨.operator, p :: opens⟩ ts = .error (.unbalanced p) := by
  apply run_of_step_error
  obtain ⟨ho, ha⟩ := hf
  rw [State.step]
  cases hk : (peek ts).kind with
  | operator op => cases op <;> simp_all
  | closeParen => exact absurd hk hc
  | _ => rfl

def Free (previous : Option Token) (ts : List Token) : Prop :=
  lacksOperand ts = true →
    fault previous (peek ts) = .unexpected (peek ts).kind (peek ts).position

mutual

theorem disjunction_fails (ts : List Token) {previous : Option Token} {opens : List Nat}
    {err : ParseError} (hp : Free previous ts) (h : rule .disjunction ts = .error err) :
    run ⟨.operand previous, opens⟩ ts = .error err := by
  rw [rule_disjunction] at h
  rcases bind_eq_error h with hc | ⟨⟨left, mid⟩, hc, ho⟩
  · exact conjunction_fails ts hp hc
  · have hm := length_rule hc
    rw [run_takes (conjunction_reads ts hc).takes]
    exact orChain_fails mid ho
termination_by 6 * ts.length + 4

theorem orChain_fails (mid : List Token) {left : Expr} {opens : List Nat} {err : ParseError}
    (h : resume .disjunction left mid = .error err) : run ⟨.operator, opens⟩ mid = .error err := by
  by_cases ho : (peek mid).kind = .operator .or
  · obtain ⟨p, mid₁, hp, hlt⟩ := exists_cons_of_peek (by decide) ho
    rw [hp, resume_or] at h
    rw [hp, run_cons rfl]
    split at h
    · cases h
      exact run_lacksOperand ‹_›
    · rcases bind_eq_error h with hc | ⟨⟨right, mid₂⟩, hc, hn⟩
      · exact conjunction_fails mid₁ (fun hl => absurd hl ‹_›) hc
      · have hm := length_rule hc
        rw [run_takes (conjunction_reads mid₁ hc).takes]
        exact orChain_fails mid₂ hn
  · rw [resume_disjunction_of_ne ho] at h
    cases h
termination_by 6 * mid.length + 5

theorem conjunction_fails (ts : List Token) {previous : Option Token} {opens : List Nat}
    {err : ParseError} (hp : Free previous ts) (h : rule .conjunction ts = .error err) :
    run ⟨.operand previous, opens⟩ ts = .error err := by
  rw [rule_conjunction] at h
  rcases bind_eq_error h with hu | ⟨⟨left, mid⟩, hu, ha⟩
  · exact unary_fails ts hp hu
  · have hm := length_rule hu
    rw [run_takes (unary_reads ts hu)]
    exact andChain_fails mid ha
termination_by 6 * ts.length + 2

theorem andChain_fails (mid : List Token) {left : Expr} {opens : List Nat} {err : ParseError}
    (h : resume .conjunction left mid = .error err) : run ⟨.operator, opens⟩ mid = .error err := by
  by_cases ha : (peek mid).kind = .operator .and
  · obtain ⟨p, mid₁, hp, hlt⟩ := exists_cons_of_peek (by decide) ha
    rw [hp, resume_and] at h
    rw [hp, run_cons rfl]
    split at h
    · cases h
      exact run_lacksOperand ‹_›
    · rcases bind_eq_error h with hu | ⟨⟨right, mid₂⟩, hu, hn⟩
      · exact unary_fails mid₁ (fun hl => absurd hl ‹_›) hu
      · have hm := length_rule hu
        rw [run_takes (unary_reads mid₁ hu)]
        exact andChain_fails mid₂ hn
  · rw [resume_conjunction_of_ne ha] at h
    cases h
termination_by 6 * mid.length + 3

theorem unary_fails (ts : List Token) {previous : Option Token} {opens : List Nat}
    {err : ParseError} (hp : Free previous ts) (h : rule .unary ts = .error err) :
    run ⟨.operand previous, opens⟩ ts = .error err := by
  by_cases hn : (peek ts).kind = .operator .not
  · obtain ⟨p, ts₁, hts, hlt⟩ := exists_cons_of_peek (by decide) hn
    rw [hts, rule_not] at h
    rw [hts, run_cons rfl]
    split at h
    · cases h
      exact run_lacksOperand ‹_›
    · rcases bind_eq_error h with hu | ⟨⟨e, rest⟩, hu, he⟩
      · exact unary_fails ts₁ (fun hl => absurd hl ‹_›) hu
      · cases he
  · rw [rule_unary_of_ne hn] at h
    exact primary_fails ts hp hn h
termination_by 6 * ts.length + 1

theorem primary_fails (ts : List Token) {previous : Option Token} {opens : List Nat}
    {err : ParseError} (hp : Free previous ts) (hn : (peek ts).kind ≠ .operator .not)
    (h : rule .primary ts = .error err) : run ⟨.operand previous, opens⟩ ts = .error err := by
  by_cases hl : lacksOperand ts = true
  · rw [rule_primary_of_lacksOperand hl] at h
    cases h
    rw [run_lacksOperand hl, hp hl]
  · cases hk : (peek ts).kind with
    | constant b =>
      obtain ⟨p, ts₁, hts, -⟩ := exists_cons_of_peek (by simp) hk
      rw [hts, rule_constant] at h
      cases h
    | name n =>
      obtain ⟨p, ts₁, hts, -⟩ := exists_cons_of_peek (by simp) hk
      rw [hts, rule_name] at h
      cases h
    | openParen =>
      obtain ⟨p, ts₁, hts, hlt⟩ := exists_cons_of_peek (by simp) hk
      rw [hts, rule_group] at h
      rw [hts, run_cons rfl]
      rcases bind_eq_error h with hd | ⟨⟨e, rest⟩, hd, he⟩
      · exact disjunction_fails ts₁ (fun _ => rfl) hd
      · have hr := disjunction_reads ts₁ hd
        rw [run_takes hr.takes]
        split at he
        · cases he
        · cases he
          exact run_unclosed hr.follow ‹_›
    | operator op => cases op <;> simp_all [lacksOperand, Operator.isBinary]
    | closeParen => simp [lacksOperand, hk] at hl
    | stop => simp [lacksOperand, hk] at hl
termination_by 6 * ts.length

end

lemma run_after_condition (hf : Follow .disjunction rest) :
    run ⟨.operator, []⟩ rest =
      match (peek rest).kind with
      | .stop => .ok ()
      | .closeParen => .error (.unbalanced (peek rest).position)
      | k => .error (.trailing k (peek rest).position) := by
  obtain ⟨ho, ha⟩ := hf
  cases hk : (peek rest).kind with
  | stop => exact run_of_step_none (by simp [State.step, hk])
  | operator op =>
    cases op with
    | and => exact absurd hk ha
    | or => exact absurd hk ho
    | not => exact run_of_step_error (by simp [State.step, hk])
  | _ => exact run_of_step_error (by simp [State.step, hk])

lemma ofTokens_eq_run (ts : List Token) : (ofTokens ts).map (fun _ => ()) = run start ts := by
  rw [ofTokens_eq]
  split
  · rename_i hs
    rw [start, run_lacksOperand (by simp [lacksOperand, hs]), fault, if_pos hs]
    rfl
  · rename_i hs
    cases hd : rule .disjunction ts with
    | error err =>
      have hfree : Free none ts := fun _ => if_neg hs
      exact (disjunction_fails ts hfree hd).symm
    | ok x =>
      obtain ⟨e, rest⟩ := x
      have hr := disjunction_reads ts hd
      rw [start, run_takes hr.takes, run_after_condition hr.follow]
      simp only [Except.bind]
      cases (peek rest).kind <;> rfl

theorem parse_outcome_eq_run {text : String} {ts : List Token} (h : tokenize text = .ok ts) :
    (Expr.parse text).map (fun _ => ()) = run start ts := by
  rw [Expr.parse, h]
  exact ofTokens_eq_run ts

theorem parse_outcome_unclosed_group :
    tokenize "A OR (B C" = .ok [⟨.name "A", 0⟩, ⟨.operator .or, 2⟩, ⟨.openParen, 5⟩,
      ⟨.name "B", 6⟩, ⟨.name "C", 8⟩, ⟨.stop, 9⟩] ∧
    (Expr.parse "A OR (B C").map (fun _ => ()) = .error (.unbalanced 5) := by
  have h : tokenize "A OR (B C" = .ok [⟨.name "A", 0⟩, ⟨.operator .or, 2⟩, ⟨.openParen, 5⟩,
      ⟨.name "B", 6⟩, ⟨.name "C", 8⟩, ⟨.stop, 9⟩] := by cbv
  exact ⟨h, (parse_outcome_eq_run h).trans rfl⟩

end TriggerLogic.Diagnosis
