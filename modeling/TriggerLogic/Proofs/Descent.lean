import TriggerLogic.Proofs.Grammar

/-! A rule answers a tree and the tokens it leaves exactly when the tokens it takes derive the tree
and those left cannot extend it. -/

namespace TriggerLogic.Parse

open Token Grammar

abbrev Answer := Except ParseError (Expr × List Token)

def plain {P : List Token → Prop} : Except ParseError (Expr × {rest : List Token // P rest}) → Answer
  | .error err => .error err
  | .ok (e, rest) => .ok (e, rest.val)

def rule : Symbol → List Token → Answer
  | .disjunction, ts => plain (disjunction ts)
  | .conjunction, ts => plain (conjunction ts)
  | .unary, ts => plain (unary ts)
  | .primary, ts => plain (primary ts)

def resume : Symbol → Expr → List Token → Answer
  | .disjunction, e, ts => plain (orChain e ts)
  | .conjunction, e, ts => plain (andChain e ts)
  | _, e, ts => .ok (e, ts)

lemma length_rule {s : Symbol} {ts rest : List Token} {e : Expr} (h : rule s ts = .ok (e, rest)) :
    rest.length < ts.length := by
  have hp : ∀ r : Except ParseError (Expr × Shorter ts), plain r = .ok (e, rest) →
      rest.length < ts.length := by
    rintro (err | ⟨e', rest', hr⟩) h
    · cases h
    · cases h
      exact hr
  cases s <;> exact hp _ h

lemma rule_disjunction (ts : List Token) :
    rule .disjunction ts = (rule .conjunction ts).bind fun x => resume .disjunction x.1 x.2 := by
  rw [rule, rule, disjunction]
  rcases conjunction ts with err | ⟨left, mid, hm⟩
  · rfl
  · rcases h : orChain left mid with err | ⟨e, rest, hr⟩ <;> simp [Except.bind, plain, resume, h]

lemma rule_conjunction (ts : List Token) :
    rule .conjunction ts = (rule .unary ts).bind fun x => resume .conjunction x.1 x.2 := by
  rw [rule, rule, conjunction]
  rcases unary ts with err | ⟨left, mid, hm⟩
  · rfl
  · rcases h : andChain left mid with err | ⟨e, rest, hr⟩ <;> simp [Except.bind, plain, resume, h]

lemma resume_or (left : Expr) (p : Nat) (ts : List Token) :
    resume .disjunction left (⟨.operator .or, p⟩ :: ts) =
      if lacksOperand ts then .error (.missingOperand .or p)
      else (rule .conjunction ts).bind fun x => resume .disjunction (.or left x.1) x.2 := by
  rw [resume, orChain]
  split
  · rfl
  · rw [rule]
    rcases conjunction ts with err | ⟨right, mid, hm⟩
    · rfl
    · rcases h : orChain (.or left right) mid with err | ⟨e, rest, hr⟩ <;>
        simp [Except.bind, plain, resume, h]

lemma resume_and (left : Expr) (p : Nat) (ts : List Token) :
    resume .conjunction left (⟨.operator .and, p⟩ :: ts) =
      if lacksOperand ts then .error (.missingOperand .and p)
      else (rule .unary ts).bind fun x => resume .conjunction (.and left x.1) x.2 := by
  rw [resume, andChain]
  split
  · rfl
  · rw [rule]
    rcases unary ts with err | ⟨right, mid, hm⟩
    · rfl
    · rcases h : andChain (.and left right) mid with err | ⟨e, rest, hr⟩ <;>
        simp [Except.bind, plain, resume, h]

lemma resume_disjunction_of_ne {left : Expr} {ts : List Token} (h : (peek ts).kind ≠ .operator .or) :
    resume .disjunction left ts = .ok (left, ts) := by
  rw [resume, orChain]
  · rfl
  · rintro p ts' rfl
    exact h rfl

lemma resume_conjunction_of_ne {left : Expr} {ts : List Token} (h : (peek ts).kind ≠ .operator .and) :
    resume .conjunction left ts = .ok (left, ts) := by
  rw [resume, andChain]
  · rfl
  · rintro p ts' rfl
    exact h rfl

lemma rule_not (p : Nat) (ts : List Token) :
    rule .unary (⟨.operator .not, p⟩ :: ts) =
      if lacksOperand ts then .error (.missingOperand .not p)
      else (rule .unary ts).bind fun x => .ok (.not x.1, x.2) := by
  rw [rule, unary]
  split
  · rfl
  · rw [rule]
    rcases unary ts with err | ⟨e, rest, hr⟩ <;> rfl

lemma rule_unary_of_ne {ts : List Token} (h : (peek ts).kind ≠ .operator .not) :
    rule .unary ts = rule .primary ts := by
  rw [rule, rule, unary]
  rintro p ts' rfl
  exact h rfl

lemma rule_constant (b : Bool) (p : Nat) (ts : List Token) :
    rule .primary (⟨.constant b, p⟩ :: ts) = .ok (.constant b, ts) := by
  rw [rule, primary]
  rfl

lemma rule_name (n : String) (p : Nat) (ts : List Token) :
    rule .primary (⟨.name n, p⟩ :: ts) = .ok (.leaf (.ofName n), ts) := by
  rw [rule, primary]
  rfl

lemma rule_group (p : Nat) (ts : List Token) :
    rule .primary (⟨.openParen, p⟩ :: ts) =
      (rule .disjunction ts).bind fun x =>
        if (peek x.2).kind = .closeParen then .ok (x.1, x.2.tail) else .error (.unbalanced p) := by
  simp only [rule]
  rw [primary]
  rcases disjunction ts with err | ⟨e, rest, hr⟩
  · rfl
  · rcases rest with _ | ⟨⟨k, q⟩, rest⟩
    · rfl
    · cases k <;> rfl

lemma rule_primary_of_lacksOperand {ts : List Token} (h : lacksOperand ts = true) :
    rule .primary ts = .error (.unexpected (peek ts).kind (peek ts).position) := by
  rw [rule, primary]
  · rfl
  · rintro _ _ _ rfl
    cases h
  · rintro _ _ _ rfl
    cases h
  · rintro _ _ rfl
    cases h

lemma ofTokens_eq (ts : List Token) :
    ofTokens ts =
      if (peek ts).kind = .stop then .error .empty
      else (rule .disjunction ts).bind fun x =>
        match (peek x.2).kind with
        | .stop => .ok x.1
        | .closeParen => .error (.unbalanced (peek x.2).position)
        | k => .error (.trailing k (peek x.2).position) := by
  rw [ofTokens]
  split
  · rfl
  · rw [rule]
    rcases disjunction ts with err | ⟨e, rest, hr⟩
    · rfl
    · simp only [plain, Except.bind]
      rcases peek rest with ⟨k, p⟩
      cases k <;> rfl

lemma bind_eq_ok {α β : Type} {x : Except ParseError α} {f : α → Except ParseError β} {b : β}
    (h : x.bind f = .ok b) : ∃ a, x = .ok a ∧ f a = .ok b := by
  cases x with
  | error err => cases h
  | ok a => exact ⟨a, rfl, h⟩

lemma bind_eq_error {α β : Type} {x : Except ParseError α} {f : α → Except ParseError β}
    {err : ParseError} (h : x.bind f = .error err) :
    x = .error err ∨ ∃ a, x = .ok a ∧ f a = .error err := by
  cases x with
  | error err' =>
    cases h
    exact .inl rfl
  | ok a => exact .inr ⟨a, rfl, h⟩

def Takes (s : Symbol) (ts : List Token) (e : Expr) (rest : List Token) : Prop :=
  ∃ used, ts = used ++ rest ∧ Derives s (used.map Token.kind) e

/-- What is left cannot extend what the symbol stands for. -/
def Follow : Symbol → List Token → Prop
  | .disjunction, rest => (peek rest).kind ≠ .operator .or ∧ (peek rest).kind ≠ .operator .and
  | .conjunction, rest => (peek rest).kind ≠ .operator .and
  | _, _ => True

structure Reads (s : Symbol) (ts : List Token) (e : Expr) (rest : List Token) : Prop where
  takes : Takes s ts e rest
  follow : Follow s rest

variable {ts mid rest : List Token} {e left right : Expr} {p : Nat}

lemma Takes.disjunction (h : Takes .conjunction ts e rest) : Takes .disjunction ts e rest := by
  obtain ⟨used, rfl, hd⟩ := h
  exact ⟨used, rfl, .conjunction hd⟩

lemma Takes.conjunction (h : Takes .unary ts e rest) : Takes .conjunction ts e rest := by
  obtain ⟨used, rfl, hd⟩ := h
  exact ⟨used, rfl, .unary hd⟩

lemma Takes.or (hl : Takes .disjunction ts left (⟨.operator .or, p⟩ :: mid))
    (hr : Takes .conjunction mid right rest) : Takes .disjunction ts (.or left right) rest := by
  obtain ⟨used, rfl, hd⟩ := hl
  obtain ⟨used', rfl, hd'⟩ := hr
  exact ⟨used ++ ⟨.operator .or, p⟩ :: used', by simp, by simpa using hd.or hd'⟩

lemma Takes.and (hl : Takes .conjunction ts left (⟨.operator .and, p⟩ :: mid))
    (hr : Takes .unary mid right rest) : Takes .conjunction ts (.and left right) rest := by
  obtain ⟨used, rfl, hd⟩ := hl
  obtain ⟨used', rfl, hd'⟩ := hr
  exact ⟨used ++ ⟨.operator .and, p⟩ :: used', by simp, by simpa using hd.and hd'⟩

lemma Takes.not (h : Takes .unary ts e rest) :
    Takes .unary (⟨.operator .not, p⟩ :: ts) (.not e) rest := by
  obtain ⟨used, rfl, hd⟩ := h
  exact ⟨⟨.operator .not, p⟩ :: used, rfl, hd.not⟩

lemma Takes.unary (h : Takes .primary ts e rest) : Takes .unary ts e rest := by
  obtain ⟨used, rfl, hd⟩ := h
  exact ⟨used, rfl, .primary hd⟩

lemma Takes.group {q : Nat} (h : Takes .disjunction ts e (⟨.closeParen, q⟩ :: rest)) :
    Takes .primary (⟨.openParen, p⟩ :: ts) e rest := by
  obtain ⟨used, rfl, hd⟩ := h
  exact ⟨⟨.openParen, p⟩ :: (used ++ [⟨.closeParen, q⟩]), by simp, by simpa using hd.group⟩

lemma exists_cons_of_peek {k : Kind} (hk : k ≠ .stop) (h : (peek ts).kind = k) :
    ∃ p ts', ts = ⟨k, p⟩ :: ts' ∧ ts'.length < ts.length := by
  rcases ts with _ | ⟨⟨k', p⟩, ts⟩
  · exact absurd h.symm hk
  · exact ⟨p, ts, by rw [← h]; rfl, by simp⟩

mutual

theorem disjunction_reads (ts : List Token) {e : Expr} {rest : List Token}
    (h : rule .disjunction ts = .ok (e, rest)) : Reads .disjunction ts e rest := by
  rw [rule_disjunction] at h
  obtain ⟨⟨left, mid⟩, hc, ho⟩ := bind_eq_ok h
  have hm := length_rule hc
  have hl := conjunction_reads ts hc
  exact orChain_reads mid hl.takes.disjunction hl.follow ho
termination_by 6 * ts.length + 4

theorem orChain_reads (mid : List Token) {ts : List Token} {left e : Expr} {rest : List Token}
    (hl : Takes .disjunction ts left mid) (hf : Follow .conjunction mid)
    (h : resume .disjunction left mid = .ok (e, rest)) : Reads .disjunction ts e rest := by
  by_cases ho : (peek mid).kind = .operator .or
  · obtain ⟨p, mid₁, hp, hlt⟩ := exists_cons_of_peek (by decide) ho
    rw [hp, resume_or] at h
    split at h
    · cases h
    · obtain ⟨⟨right, mid₂⟩, hc, hn⟩ := bind_eq_ok h
      have hm := length_rule hc
      have hr := conjunction_reads mid₁ hc
      exact orChain_reads mid₂ ((hp ▸ hl).or hr.takes) hr.follow hn
  · rw [resume_disjunction_of_ne ho] at h
    cases h
    exact ⟨hl, ho, hf⟩
termination_by 6 * mid.length + 5

theorem conjunction_reads (ts : List Token) {e : Expr} {rest : List Token}
    (h : rule .conjunction ts = .ok (e, rest)) : Reads .conjunction ts e rest := by
  rw [rule_conjunction] at h
  obtain ⟨⟨left, mid⟩, hu, ha⟩ := bind_eq_ok h
  have hm := length_rule hu
  exact andChain_reads mid (unary_reads ts hu).conjunction ha
termination_by 6 * ts.length + 2

theorem andChain_reads (mid : List Token) {ts : List Token} {left e : Expr} {rest : List Token}
    (hl : Takes .conjunction ts left mid) (h : resume .conjunction left mid = .ok (e, rest)) :
    Reads .conjunction ts e rest := by
  by_cases ha : (peek mid).kind = .operator .and
  · obtain ⟨p, mid₁, hp, hlt⟩ := exists_cons_of_peek (by decide) ha
    rw [hp, resume_and] at h
    split at h
    · cases h
    · obtain ⟨⟨right, mid₂⟩, hu, hn⟩ := bind_eq_ok h
      have hm := length_rule hu
      exact andChain_reads mid₂ ((hp ▸ hl).and (unary_reads mid₁ hu)) hn
  · rw [resume_conjunction_of_ne ha] at h
    cases h
    exact ⟨hl, ha⟩
termination_by 6 * mid.length + 3

theorem unary_reads (ts : List Token) {e : Expr} {rest : List Token}
    (h : rule .unary ts = .ok (e, rest)) : Takes .unary ts e rest := by
  by_cases hn : (peek ts).kind = .operator .not
  · obtain ⟨p, ts₁, hp, hlt⟩ := exists_cons_of_peek (by decide) hn
    rw [hp, rule_not] at h
    split at h
    · cases h
    · obtain ⟨⟨e₁, rest₁⟩, hu, he⟩ := bind_eq_ok h
      cases he
      have hr := unary_reads ts₁ hu
      exact hp ▸ hr.not
  · rw [rule_unary_of_ne hn] at h
    exact (primary_reads ts hn h).unary
termination_by 6 * ts.length + 1

theorem primary_reads (ts : List Token) {e : Expr} {rest : List Token}
    (hn : (peek ts).kind ≠ .operator .not) (h : rule .primary ts = .ok (e, rest)) :
    Takes .primary ts e rest := by
  cases hk : (peek ts).kind with
  | constant b =>
    obtain ⟨p, ts₁, hp, hlt⟩ := exists_cons_of_peek (by simp) hk
    rw [hp, rule_constant] at h
    cases h
    exact ⟨[⟨.constant b, p⟩], hp, .constant b⟩
  | name n =>
    obtain ⟨p, ts₁, hp, hlt⟩ := exists_cons_of_peek (by simp) hk
    rw [hp, rule_name] at h
    cases h
    exact ⟨[⟨.name n, p⟩], hp, .name n⟩
  | openParen =>
    obtain ⟨p, ts₁, hp, hlt⟩ := exists_cons_of_peek (by simp) hk
    rw [hp, rule_group] at h
    obtain ⟨⟨e₁, rest₁⟩, hd, he⟩ := bind_eq_ok h
    have hr := disjunction_reads ts₁ hd
    split at he
    · rename_i hc
      obtain ⟨q, rest₂, rfl, -⟩ := exists_cons_of_peek (by simp) hc
      cases he
      exact hp ▸ hr.takes.group
    · cases he
  | operator op =>
    have hl : lacksOperand ts = true := by
      cases op <;> simp_all [lacksOperand, Operator.isBinary]
    rw [rule_primary_of_lacksOperand hl] at h
    cases h
  | closeParen =>
    rw [rule_primary_of_lacksOperand (by simp [lacksOperand, hk])] at h
    cases h
  | stop =>
    rw [rule_primary_of_lacksOperand (by simp [lacksOperand, hk])] at h
    cases h
termination_by 6 * ts.length

end

lemma lacksOperand_eq (ts : List Token) : lacksOperand ts = !starts (peek ts).kind := by
  rw [lacksOperand]
  cases (peek ts).kind with
  | operator op => exact (Bool.not_not _).symm
  | _ => rfl

lemma lacksOperand_append {s : Symbol} (h : Derives s (ts.map Token.kind) e) (rest : List Token) :
    lacksOperand (ts ++ rest) = false := by
  obtain ⟨k, ks, hk, hs⟩ := h.starts
  obtain ⟨t, ts, rfl, rfl, rfl⟩ := List.map_eq_cons_iff.mp hk
  rw [lacksOperand_eq, List.cons_append]
  exact congrArg not hs

lemma peek_append_ne_not (h : Derives .primary (ts.map Token.kind) e) (rest : List Token) :
    (peek (ts ++ rest)).kind ≠ .operator .not := by
  obtain ⟨k, ks, hk, -⟩ := h.starts
  obtain ⟨t, ts, rfl, rfl, -⟩ := List.map_eq_cons_iff.mp hk
  rintro (hn : t.kind = .operator .not)
  rw [List.map_cons, hn] at h
  cases h

lemma rule_append {s : Symbol} (h : Derives s (ts.map Token.kind) e) :
    ∀ {rest}, (s = .disjunction → Follow .conjunction rest) →
      rule s (ts ++ rest) = resume s e rest := by
  induction h using Derives.token_induction with
  | conjunction ts e _ ih =>
    intro rest hf
    rw [rule_disjunction, ih (by simp), resume_conjunction_of_ne (hf rfl)]
    rfl
  | or ts p ts' l r _ hr ihl ihr =>
    intro rest hf
    rw [List.append_assoc, List.cons_append, ihl (by simp [Follow, peek]), resume_or,
      lacksOperand_append hr, ihr (by simp), resume_conjunction_of_ne (hf rfl)]
    rfl
  | unary ts e _ ih =>
    intro rest _
    rw [rule_conjunction, ih (by simp)]
    rfl
  | and ts p ts' l r _ hr ihl ihr =>
    intro rest _
    rw [List.append_assoc, List.cons_append, ihl (by simp), resume_and, lacksOperand_append hr,
      ihr (by simp)]
    rfl
  | not p ts e h ih =>
    intro rest _
    rw [List.cons_append, rule_not, lacksOperand_append h, ih (by simp)]
    rfl
  | primary ts e h ih =>
    intro rest _
    rw [rule_unary_of_ne (peek_append_ne_not h rest), ih (by simp)]
    rfl
  | constant b p => exact fun _ => rule_constant b p _
  | name n p => exact fun _ => rule_name n p _
  | group p ts q e _ ih =>
    intro rest _
    rw [List.cons_append, List.append_assoc, rule_group, ih (by simp [Follow, peek]),
      List.singleton_append, resume_disjunction_of_ne (by simp [peek])]
    rfl

lemma disjunction_of_reads (h : Reads .disjunction ts e rest) :
    rule .disjunction ts = .ok (e, rest) := by
  obtain ⟨⟨used, rfl, hd⟩, ho, ha⟩ := h
  rw [rule_append hd (fun _ => ha), resume_disjunction_of_ne ho]

end TriggerLogic.Parse
