import Mathlib.Logic.Relation
import TriggerLogic.Proofs.Descent
import TriggerLogic.Proofs.Lexing

/-! The descent over tokens that are kept whole, with a cursor that moves through them. A depth
linear in the tokens left is enough, and above it the depth does not matter. -/

namespace TriggerLogic.Parse

open Token Grammar

structure Cursor where
  place : Nat
  past : List Nat := []
deriving DecidableEq, Repr

def Cursor.next (c : Cursor) : Cursor :=
  ⟨c.place + 1, c.place :: c.past⟩

@[simp]
lemma Cursor.place_next (c : Cursor) : c.next.place = c.place + 1 :=
  rfl

abbrev Walk := ExceptT ParseError (StateT Cursor Option)

namespace Walk

variable (ts : List Token)

def look : Walk Token :=
  fun c => ts[c.place]?.map fun t => (.ok t, c)

def advance : Walk Token := do
  let t ← look ts
  if t.kind ≠ .stop then modify Cursor.next
  return t

def expectOperand (op : Operator) (position : Nat) : Walk Unit := do
  let t ← look ts
  if !starts t.kind then throw (.missingOperand op position)

def behind (op : Operator) (go other : Walk Expr) : Walk Expr := do
  let t ← look ts
  if t.kind = .operator op then
    let t ← advance ts
    expectOperand ts op t.position
    go
  else other

def close (position : Nat) (e : Expr) : Walk Expr := do
  let t ← look ts
  if t.kind = .closeParen then
    let _ ← advance ts
    return e
  else throw (.unbalanced position)

def exhausted : Walk Expr :=
  fun _ => none

mutual

def disjunction : Nat → Walk Expr
  | 0 => exhausted
  | depth + 1 => do
    let left ← conjunction depth
    orLoop depth left

def orLoop : Nat → Expr → Walk Expr
  | 0, _ => exhausted
  | depth + 1, left => behind ts .or
    (do
      let right ← conjunction depth
      orLoop depth (.or left right))
    (return left)

def conjunction : Nat → Walk Expr
  | 0 => exhausted
  | depth + 1 => do
    let left ← unary depth
    andLoop depth left

def andLoop : Nat → Expr → Walk Expr
  | 0, _ => exhausted
  | depth + 1, left => behind ts .and
    (do
      let right ← unary depth
      andLoop depth (.and left right))
    (return left)

def unary : Nat → Walk Expr
  | 0 => exhausted
  | depth + 1 => behind ts .not
    (do
      let e ← unary depth
      return .not e)
    (primary depth)

def primary : Nat → Walk Expr
  | 0 => exhausted
  | depth + 1 => do
    let t ← advance ts
    match t.kind with
    | .constant value => return .constant value
    | .name text => return .leaf (.ofName text)
    | .openParen =>
      let e ← disjunction depth
      close ts t.position e
    | kind => throw (.unexpected kind t.position)

end

def call (depth : Nat) : Symbol → Walk Expr
  | .disjunction => disjunction ts depth
  | .conjunction => conjunction ts depth
  | .unary => unary ts depth
  | .primary => primary ts depth

end Walk

namespace Cursor

def Steps (ts : List Token) (c c' : Cursor) : Prop :=
  c' = c.next ∧ c'.place < ts.length

def Reaches (ts : List Token) : Cursor → Cursor → Prop :=
  Relation.ReflTransGen (Steps ts)

variable {ts : List Token} {c c' c'' : Cursor}

lemma Reaches.refl : Reaches ts c c :=
  Relation.ReflTransGen.refl

lemma Reaches.trans (h : Reaches ts c c') (h' : Reaches ts c' c'') : Reaches ts c c'' :=
  Relation.ReflTransGen.trans h h'

lemma reaches_next (h : c.place + 1 < ts.length) : Reaches ts c c.next :=
  .single ⟨rfl, h⟩

lemma Reaches.place_le (h : Reaches ts c c') : c.place ≤ c'.place := by
  induction h with
  | refl => exact Nat.le_refl _
  | tail _ hs ih =>
    obtain ⟨rfl, -⟩ := hs
    exact Nat.le_succ_of_le ih

lemma Reaches.lt_length (h : Reaches ts c c') (hc : c.place < ts.length) : c'.place < ts.length := by
  cases h with
  | refl => exact hc
  | tail _ hs => exact hs.2

lemma Reaches.past_eq (h : Reaches ts c c') :
    c'.past.reverse = c.past.reverse ++ List.range' c.place (c'.place - c.place) := by
  induction h with
  | refl => simp
  | @tail c' _ hr hs ih =>
    obtain ⟨rfl, -⟩ := hs
    have hle : c.place ≤ c'.place := Reaches.place_le hr
    have hd : c'.next.place - c.place = c'.place - c.place + 1 := by
      rw [place_next]
      omega
    have hl : c.place + (c'.place - c.place) = c'.place := by omega
    rw [hd, List.range'_1_concat, hl, ← List.append_assoc, ← ih, next, List.reverse_cons]

end Cursor

namespace Walk

open Cursor

variable {ts : List Token} {c c' : Cursor} {t : Token} {α β : Type} {bound : Nat}
  {m m' : Nat → Walk α} {r : Option (Except ParseError α × Cursor)}
  {x : Except ParseError (α × List Token)}

/-- What a walk comes to is what was read off the tokens from its start on. -/
inductive Agrees (ts : List Token) (c : Cursor) :
    Option (Except ParseError α × Cursor) → Except ParseError (α × List Token) → Prop
  | ok {a c'} : Reaches ts c c' → Agrees ts c (some (.ok a, c')) (.ok (a, ts.drop c'.place))
  | error {err c'} : Reaches ts c c' → Agrees ts c (some (.error err, c')) (.error err)

lemma bind_ok {m : Walk α} {k : α → Walk β} {a : α} (h : m c = some (.ok a, c')) :
    (m >>= k) c = k a c' := by
  change (m c).bind _ = _
  rw [h]
  rfl

lemma bind_error {m : Walk α} {k : α → Walk β} {err : ParseError} (h : m c = some (.error err, c')) :
    (m >>= k) c = some (.error err, c') := by
  change (m c).bind _ = _
  rw [h]
  rfl

lemma Agrees.after (ha : Agrees ts c' r x) (h : Reaches ts c c') : Agrees ts c r x := by
  cases ha with
  | ok h' => exact .ok (h.trans h')
  | error h' => exact .error (h.trans h')

/-- Whatever the depth, as long as it is above the bound, the walk comes to one and the same thing. -/
def Ends (ts : List Token) (c : Cursor) (bound : Nat) (m : Nat → Walk α)
    (x : Except ParseError (α × List Token)) : Prop :=
  ∃ r, (∀ depth, bound < depth → m depth c = r) ∧ Agrees ts c r x

lemma Agrees.ends (ha : Agrees ts c r x) (hm : ∀ depth, m depth c = r) : Ends ts c bound m x :=
  ⟨r, fun depth _ => hm depth, ha⟩

namespace Ends

lemma mono {bound' : Nat} (he : Ends ts c bound m x) (hb : bound ≤ bound') : Ends ts c bound' m x := by
  obtain ⟨r, hr, ha⟩ := he
  exact ⟨r, fun depth hd => hr depth (Nat.lt_of_le_of_lt hb hd), ha⟩

lemma succ (he : Ends ts c' bound m' x) (h : Reaches ts c c')
    (hm : ∀ depth, m (depth + 1) c = m' depth c') : Ends ts c (bound + 1) m x := by
  obtain ⟨r, hr, ha⟩ := he
  refine ⟨r, fun depth hd => ?_, ha.after h⟩
  cases depth with
  | zero => exact absurd hd (Nat.not_lt_zero _)
  | succ depth => rw [hm, hr depth (Nat.lt_of_succ_lt_succ hd)]

lemma bind {k : Nat → α → Walk β} {f : α × List Token → Except ParseError (β × List Token)}
    (he : Ends ts c bound m x)
    (hk : ∀ a c', Reaches ts c c' → x = .ok (a, ts.drop c'.place) →
      Ends ts c' bound (fun depth => k depth a) (f (a, ts.drop c'.place))) :
    Ends ts c bound (fun depth => m depth >>= k depth) (x.bind f) := by
  obtain ⟨r, hr, ha⟩ := he
  cases ha with
  | ok h =>
    obtain ⟨r', hr', ha'⟩ := hk _ _ h rfl
    exact ⟨r', fun depth hd => (bind_ok (hr depth hd)).trans (hr' depth hd), ha'.after h⟩
  | error h => exact ⟨_, fun depth hd => bind_error (hr depth hd), .error h⟩

end Ends

lemma Agrees.ends_succ (ha : Agrees ts c r x) (hm : ∀ depth, m (depth + 1) c = r) :
    Ends ts c (bound + 1) m x :=
  (Agrees.ends (m := fun _ _ => r) ha fun _ => rfl).succ .refl hm

lemma look_eq (h : ts[c.place]? = some t) : look ts c = some (.ok t, c) := by
  rw [look, h]
  rfl

lemma advance_eq (h : ts[c.place]? = some t) (hk : t.kind ≠ .stop) :
    advance ts c = some (.ok t, c.next) := by
  rw [advance, bind_ok (look_eq h), if_pos hk]
  rfl

lemma advance_stop (h : ts[c.place]? = some t) (hk : t.kind = .stop) : advance ts c = some (.ok t, c) := by
  rw [advance, bind_ok (look_eq h), if_neg fun hn => hn hk]
  rfl

lemma drop_eq_cons (h : ts[c.place]? = some t) : ts.drop c.place = t :: ts.drop (c.place + 1) := by
  obtain ⟨hlt, rfl⟩ := List.getElem?_eq_some_iff.mp h
  exact List.drop_eq_getElem_cons hlt

lemma expectOperand_eq (op : Operator) (position : Nat) (hc : c.place < ts.length) :
    expectOperand ts op position c =
      some (if lacksOperand (ts.drop c.place) then .error (.missingOperand op position) else .ok (), c) := by
  have ht : ts[c.place]? = some ts[c.place] := List.getElem?_eq_getElem hc
  rw [expectOperand, bind_ok (look_eq ht), lacksOperand_eq, drop_eq_cons ht, peek, List.headD_cons]
  cases starts ts[c.place].kind <;> rfl

lemma succ_lt_length (h : Ended ts) (ht : ts[c.place]? = some t) (hk : t.kind ≠ .stop) :
    c.place + 1 < ts.length := by
  obtain ⟨body, p, rfl, -⟩ := h
  obtain ⟨hlt, rfl⟩ := List.getElem?_eq_some_iff.mp ht
  rw [List.length_append, List.length_singleton] at hlt ⊢
  have hb : c.place ≠ body.length := by
    intro hb
    simp [hb] at hk
  omega

lemma Ends.behind (h : Ended ts) (hc : c.place < ts.length) {op : Operator} {go other : Nat → Walk Expr}
    {g : List Token → Except ParseError (Expr × List Token)} {x : Except ParseError (Expr × List Token)}
    (ho : ∀ p ts', ts.drop c.place = ⟨.operator op, p⟩ :: ts' →
      x = if lacksOperand ts' then .error (.missingOperand op p) else g ts')
    (hgo : c.next.place < ts.length → Ends ts c.next bound go (g (ts.drop c.next.place)))
    (hother : (peek (ts.drop c.place)).kind ≠ .operator op → Ends ts c bound other x) :
    Ends ts c bound (fun depth => behind ts op (go depth) (other depth)) x := by
  obtain ⟨⟨k, p⟩, ht⟩ : ∃ t, ts[c.place]? = some t := ⟨_, List.getElem?_eq_getElem hc⟩
  have hd := drop_eq_cons ht
  by_cases hk : k = .operator op
  · subst hk
    have hn : c.next.place < ts.length := succ_lt_length h ht (by simp)
    have hb : ∀ {go other : Walk Expr},
        Walk.behind ts op go other c = (expectOperand ts op p >>= fun _ => go) c.next := by
      intro go other
      rw [Walk.behind, bind_ok (look_eq ht), if_pos rfl, bind_ok (advance_eq ht (by simp))]
    have he := expectOperand_eq op p hn
    rw [ho p _ hd]
    split
    · rename_i hl
      rw [place_next, if_pos hl] at he
      exact Agrees.ends (.error (reaches_next hn)) fun depth => by rw [hb, bind_error he]
    · rename_i hl
      rw [place_next, if_neg hl] at he
      obtain ⟨r, hr, ha⟩ := hgo hn
      refine ⟨r, fun depth hdepth => ?_, ha.after (reaches_next hn)⟩
      exact hb.trans ((bind_ok he).trans (hr depth hdepth))
  · obtain ⟨r, hr, ha⟩ := hother (by rwa [hd])
    refine ⟨r, fun depth hdepth => ?_, ha⟩
    have hb : Walk.behind ts op (go depth) (other depth) c = other depth c := by
      rw [Walk.behind, bind_ok (look_eq ht), if_neg hk]
    exact hb.trans (hr depth hdepth)

lemma close_agrees (h : Ended ts) (position : Nat) (e : Expr) (hc : c.place < ts.length) :
    Agrees ts c (close ts position e c)
      (if (peek (ts.drop c.place)).kind = .closeParen then .ok (e, (ts.drop c.place).tail)
        else .error (.unbalanced position)) := by
  obtain ⟨t, ht⟩ : ∃ t, ts[c.place]? = some t := ⟨_, List.getElem?_eq_getElem hc⟩
  rw [close, bind_ok (look_eq ht), drop_eq_cons ht, peek, List.headD_cons]
  by_cases hk : t.kind = .closeParen
  · have hs : t.kind ≠ .stop := by simp [hk]
    rw [if_pos hk, if_pos hk, bind_ok (advance_eq ht hs)]
    exact .ok (reaches_next (succ_lt_length h ht hs))
  · rw [if_neg hk, if_neg hk]
    exact .error .refl

lemma place_lt_of_rule {s : Symbol} {e : Expr} {i j : Nat} (h : rule s (ts.drop i) = .ok (e, ts.drop j)) :
    i < j := by
  have hl := length_rule h
  rw [List.length_drop, List.length_drop] at hl
  omega

lemma rule_operator (op : Operator) (p : Nat) (ts : List Token) :
    rule .primary (⟨.operator op, p⟩ :: ts) = .error (.unexpected (.operator op) p) := by
  rw [rule, Parse.primary]
  · rfl
  · simp
  · simp
  · simp

mutual

theorem disjunction_ends (h : Ended ts) (c : Cursor) (hc : c.place < ts.length) :
    Ends ts c (6 * (ts.length - c.place) + 5) (disjunction ts) (rule .disjunction (ts.drop c.place)) := by
  rw [rule_disjunction]
  refine Ends.succ (Ends.bind ((conjunction_ends h c hc).mono (by omega)) ?_) .refl
    fun depth => by rw [disjunction]
  intro left c' hr hx
  have hlt := place_lt_of_rule hx
  exact (orLoop_ends h left c' (hr.lt_length hc)).mono (by omega)
termination_by 6 * (ts.length - c.place) + 5

theorem orLoop_ends (h : Ended ts) (left : Expr) (c : Cursor) (hc : c.place < ts.length) :
    Ends ts c (6 * (ts.length - c.place) + 6) (fun depth => orLoop ts depth left)
      (resume .disjunction left (ts.drop c.place)) := by
  refine Ends.succ (Ends.behind h hc
      (g := fun ts' => (rule .conjunction ts').bind fun x => resume .disjunction (.or left x.1) x.2)
      ?_ (fun hn => Ends.bind ((conjunction_ends h c.next hn).mono ?_) ?_) ?_)
    .refl fun depth => by rw [orLoop]
  · intro p ts' hd
    rw [hd, resume_or]
  · rw [place_next]
    omega
  · intro right c' hr _
    have hle : c.place + 1 ≤ c'.place := hr.place_le
    exact (orLoop_ends h (.or left right) c' (hr.lt_length hn)).mono (by omega)
  · intro hp
    rw [resume_disjunction_of_ne hp]
    exact Agrees.ends (.ok .refl) fun _ => rfl
termination_by 6 * (ts.length - c.place) + 6

theorem conjunction_ends (h : Ended ts) (c : Cursor) (hc : c.place < ts.length) :
    Ends ts c (6 * (ts.length - c.place) + 3) (conjunction ts) (rule .conjunction (ts.drop c.place)) := by
  rw [rule_conjunction]
  refine Ends.succ (Ends.bind ((unary_ends h c hc).mono (by omega)) ?_) .refl
    fun depth => by rw [conjunction]
  intro left c' hr hx
  have hlt := place_lt_of_rule hx
  exact (andLoop_ends h left c' (hr.lt_length hc)).mono (by omega)
termination_by 6 * (ts.length - c.place) + 3

theorem andLoop_ends (h : Ended ts) (left : Expr) (c : Cursor) (hc : c.place < ts.length) :
    Ends ts c (6 * (ts.length - c.place) + 4) (fun depth => andLoop ts depth left)
      (resume .conjunction left (ts.drop c.place)) := by
  refine Ends.succ (Ends.behind h hc
      (g := fun ts' => (rule .unary ts').bind fun x => resume .conjunction (.and left x.1) x.2)
      ?_ (fun hn => Ends.bind ((unary_ends h c.next hn).mono ?_) ?_) ?_)
    .refl fun depth => by rw [andLoop]
  · intro p ts' hd
    rw [hd, resume_and]
  · rw [place_next]
    omega
  · intro right c' hr _
    have hle : c.place + 1 ≤ c'.place := hr.place_le
    exact (andLoop_ends h (.and left right) c' (hr.lt_length hn)).mono (by omega)
  · intro hp
    rw [resume_conjunction_of_ne hp]
    exact Agrees.ends (.ok .refl) fun _ => rfl
termination_by 6 * (ts.length - c.place) + 4

theorem unary_ends (h : Ended ts) (c : Cursor) (hc : c.place < ts.length) :
    Ends ts c (6 * (ts.length - c.place) + 2) (unary ts) (rule .unary (ts.drop c.place)) := by
  refine Ends.succ (Ends.behind h hc
      (g := fun ts' => (rule .unary ts').bind fun x => .ok (.not x.1, x.2))
      ?_ (fun hn => Ends.bind ((unary_ends h c.next hn).mono ?_) ?_) ?_)
    .refl fun depth => by rw [unary]
  · intro p ts' hd
    rw [hd, rule_not]
  · rw [place_next]
    omega
  · exact fun _ _ _ _ => Agrees.ends (.ok .refl) fun _ => rfl
  · intro hp
    rw [rule_unary_of_ne hp]
    exact primary_ends h c hc
termination_by 6 * (ts.length - c.place) + 2

theorem primary_ends (h : Ended ts) (c : Cursor) (hc : c.place < ts.length) :
    Ends ts c (6 * (ts.length - c.place) + 1) (primary ts) (rule .primary (ts.drop c.place)) := by
  obtain ⟨⟨k, p⟩, ht⟩ : ∃ t, ts[c.place]? = some t := ⟨_, List.getElem?_eq_getElem hc⟩
  rw [drop_eq_cons ht]
  by_cases hs : k = .stop
  · subst hs
    rw [rule_primary_of_lacksOperand rfl]
    refine Agrees.ends_succ (.error .refl) fun depth => ?_
    rw [primary, bind_ok (advance_stop ht rfl)]
    rfl
  · have hn : c.next.place < ts.length := succ_lt_length h ht hs
    have hr : Reaches ts c c.next := reaches_next hn
    have ha : ∀ {k : Token → Walk Expr}, (advance ts >>= k) c = k ⟨_, p⟩ c.next :=
      bind_ok (advance_eq ht hs)
    cases k with
    | constant value =>
      rw [rule_constant]
      exact Agrees.ends_succ (.ok hr) fun depth => by rw [primary, ha]; rfl
    | name text =>
      rw [rule_name]
      exact Agrees.ends_succ (.ok hr) fun depth => by rw [primary, ha]; rfl
    | openParen =>
      rw [rule_group]
      refine Ends.succ (Ends.bind (k := fun _ => close ts p) ((disjunction_ends h c.next hn).mono ?_) ?_)
        hr fun depth => ?_
      · rw [place_next]
        omega
      · intro e c' hr' _
        exact (close_agrees h p e (hr'.lt_length hn)).ends fun _ => rfl
      · rw [primary, ha]
    | operator op =>
      rw [rule_operator]
      exact Agrees.ends_succ (.error hr) fun depth => by rw [primary, ha]; rfl
    | closeParen =>
      rw [rule_primary_of_lacksOperand rfl]
      exact Agrees.ends_succ (.error hr) fun depth => by rw [primary, ha]; rfl
    | stop => exact absurd rfl hs
termination_by 6 * (ts.length - c.place) + 1

end

lemma call_settles (h : Ended ts) (hc : c.place < ts.length) (s : Symbol) :
    Ends ts c (6 * (ts.length - c.place) + 5) (fun depth => call ts depth s) (rule s (ts.drop c.place)) := by
  cases s with
  | disjunction => exact disjunction_ends h c hc
  | conjunction => exact (conjunction_ends h c hc).mono (by omega)
  | unary => exact (unary_ends h c hc).mono (by omega)
  | primary => exact (primary_ends h c hc).mono (by omega)

theorem call_ends {ts body : List Token} {p : Nat} (hts : ts = body ++ [⟨.stop, p⟩])
    (hb : .stop ∉ body.map Token.kind) {c : Nat} (hc : c ≤ body.length) (s : Symbol) :
    ∃ answer last,
      (∀ depth, 6 * (ts.length - c) + 5 < depth → call ts depth s ⟨c, []⟩ = some (answer, last)) ∧
      c ≤ last.place ∧ last.place ≤ body.length ∧
      last.past.reverse = List.range' c (last.place - c) ∧
      (∀ e, answer = .ok e → c < last.place) ∧
      rule s (ts.drop c) = answer.map fun e => (e, ts.drop last.place) := by
  have hl : ts.length = body.length + 1 := by simp [hts]
  have hlt : (⟨c, []⟩ : Cursor).place < ts.length := by
    rw [hl]
    exact Nat.lt_succ_of_le hc
  have hreach : ∀ {last}, Reaches ts ⟨c, []⟩ last →
      c ≤ last.place ∧ last.place ≤ body.length ∧ last.past.reverse = List.range' c (last.place - c) := by
    intro last hr
    have hle := hr.lt_length hlt
    rw [hl] at hle
    exact ⟨hr.place_le, Nat.le_of_lt_succ hle, hr.past_eq⟩
  obtain ⟨r, hd, ha⟩ := call_settles ⟨body, p, hts, hb⟩ hlt s
  generalize hx : rule s (ts.drop (⟨c, []⟩ : Cursor).place) = x at ha
  change rule s (ts.drop c) = x at hx
  cases ha with
  | ok hr =>
    obtain ⟨hle, hend, hpast⟩ := hreach hr
    exact ⟨_, _, hd, hle, hend, hpast, fun _ _ => place_lt_of_rule hx, rfl⟩
  | error hr =>
    obtain ⟨hle, hend, hpast⟩ := hreach hr
    exact ⟨_, _, hd, hle, hend, hpast, by simp, rfl⟩

theorem call_ends_missing_operand :
    ∃ last, call [⟨.openParen, 0⟩, ⟨.name "A", 1⟩, ⟨.operator .or, 3⟩, ⟨.stop, 5⟩] 30 .primary ⟨0, []⟩ =
        some (.error (.missingOperand .or 3), last) ∧
      last.place ≤ 3 ∧ last.past.reverse = List.range' 0 (last.place - 0) := by
  have hts : [⟨.openParen, 0⟩, ⟨.name "A", 1⟩, ⟨.operator .or, 3⟩, ⟨.stop, 5⟩] =
      [⟨.openParen, 0⟩, ⟨.name "A", 1⟩, ⟨.operator .or, 3⟩] ++ [(⟨.stop, 5⟩ : Token)] := rfl
  have hr : rule .primary [⟨.openParen, 0⟩, ⟨.name "A", 1⟩, ⟨.operator .or, 3⟩, ⟨.stop, 5⟩] =
      .error (.missingOperand .or 3) := by cbv
  obtain ⟨answer, last, hw, -, hend, hpast, -, hx⟩ := call_ends hts (by decide) (Nat.zero_le _) .primary
  rw [List.drop_zero, hr] at hx
  cases answer with
  | ok e => cases hx
  | error err =>
    cases hx
    exact ⟨last, hw 30 (by decide), hend, hpast⟩

end Walk

end TriggerLogic.Parse
