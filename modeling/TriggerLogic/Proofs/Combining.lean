import TriggerLogic.Proofs.Layout

namespace TriggerLogic

open Token

namespace Token

variable {text more : List Char} {ks ks' : List Kind} {gap : String}

lemma IsGap.lexes (h : IsGap gap) (hm : Lexes more ks) : Lexes (gap.toList ++ more) ks := by
  rw [IsGap] at h
  generalize gap.toList = cs at h ⊢
  induction cs with
  | nil => exact hm
  | cons c cs ih =>
    obtain ⟨hc, hcs⟩ := List.forall_mem_cons.mp h
    exact .blank hc (ih hcs)

lemma Lexes.group_append (h : Lexes text ks) (hm : Lexes more ks') :
    Lexes ('(' :: (text ++ ')' :: more)) (.openParen :: (ks ++ .closeParen :: ks')) :=
  .token .openParen (h.append (.token .closeParen hm) (by simp [Breaks, isWordChar]))

lemma lexes_operator_group (op : Operator) (hg : IsGap gap) (h : Lexes text ks) :
    Lexes (op.word.toList ++ (gap.toList ++ '(' :: (text ++ [')'])))
      (.operator op :: .openParen :: (ks ++ [.closeParen])) :=
  (lexes_operator op).append (hg.lexes h.group) (hg.breaks (by simp [Breaks, isWordChar]))

end Token

namespace Grammar

variable {a b gap gap' : String} {A B : Expr}

lemma Spells.not_group (h : Spells .disjunction a A) (hg : IsGap gap) :
    Spells .disjunction ("NOT" ++ gap ++ "(" ++ a ++ ")") (.not A) := by
  obtain ⟨ks, hx, hd⟩ := h
  refine ⟨_, ?_, .conjunction (.unary (.not (.primary hd.group)))⟩
  simpa [Operator.word] using lexes_operator_group .not hg hx

lemma lexes_groups (op : Operator) (hg : IsGap gap) (hg' : IsGap gap') {ks ks' : List Kind}
    (ha : Lexes a.toList ks) (hb : Lexes b.toList ks') :
    Lexes ("(" ++ a ++ ")" ++ gap ++ op.word ++ gap' ++ "(" ++ b ++ ")").toList
      ((.openParen :: (ks ++ [.closeParen])) ++ .operator op :: .openParen :: (ks' ++ [.closeParen])) := by
  simpa using ha.group_append (hg.lexes (lexes_operator_group op hg' hb))

lemma Spells.and_groups (ha : Spells .disjunction a A) (hb : Spells .disjunction b B) (hg : IsGap gap)
    (hg' : IsGap gap') :
    Spells .disjunction ("(" ++ a ++ ")" ++ gap ++ "AND" ++ gap' ++ "(" ++ b ++ ")") (.and A B) := by
  obtain ⟨ks, hx, hd⟩ := ha
  obtain ⟨ks', hx', hd'⟩ := hb
  exact ⟨_, lexes_groups .and hg hg' hx hx',
    .conjunction (.and (.unary (.primary hd.group)) (.primary hd'.group))⟩

lemma Spells.or_groups (ha : Spells .disjunction a A) (hb : Spells .disjunction b B) (hg : IsGap gap)
    (hg' : IsGap gap') :
    Spells .disjunction ("(" ++ a ++ ")" ++ gap ++ "OR" ++ gap' ++ "(" ++ b ++ ")") (.or A B) := by
  obtain ⟨ks, hx, hd⟩ := ha
  obtain ⟨ks', hx', hd'⟩ := hb
  exact ⟨_, lexes_groups .or hg hg' hx hx',
    .or (.conjunction (.unary (.primary hd.group))) (.unary (.primary hd'.group))⟩

end Grammar

namespace Expr

open Grammar

theorem parse_combined {a b : String} {A B : Expr} (ha : parse a = .ok A) (hb : parse b = .ok B) :
    parse ("(" ++ a ++ ")") = .ok A ∧
    parse ("NOT (" ++ a ++ ")") = .ok (.not A) ∧ parse ("NOT(" ++ a ++ ")") = .ok (.not A) ∧
    parse ("(" ++ a ++ ") AND (" ++ b ++ ")") = .ok (.and A B) ∧
    parse ("(" ++ a ++ ")AND(" ++ b ++ ")") = .ok (.and A B) ∧
    parse ("(" ++ a ++ ") OR (" ++ b ++ ")") = .ok (.or A B) ∧
    parse ("(" ++ a ++ ")OR(" ++ b ++ ")") = .ok (.or A B) := by
  have ha' := spells_of_parse ha
  have hb' := spells_of_parse hb
  have hs : IsGap " " := by decide
  have hn : IsGap "" := by decide
  refine ⟨?_, ?_, ?_, ?_, ?_, ?_, ?_⟩
  · exact parse_of_spells ha'.group.unary.conjunction.disjunction
  · simpa [String.append_assoc] using parse_of_spells (ha'.not_group hs)
  · simpa [String.append_assoc] using parse_of_spells (ha'.not_group hn)
  · simpa [String.append_assoc] using parse_of_spells (ha'.and_groups hb' hs hs)
  · simpa [String.append_assoc] using parse_of_spells (ha'.and_groups hb' hn hn)
  · simpa [String.append_assoc] using parse_of_spells (ha'.or_groups hb' hs hs)
  · simpa [String.append_assoc] using parse_of_spells (ha'.or_groups hb' hn hn)

theorem parse_combined_or_and :
    let left : Expr := .or (.leaf (.ofName "A")) (.leaf (.ofName "B"))
    let right : Expr := .and (.constant true) (.leaf (.ofName "C"))
    parse "A OR\tB" = .ok left ∧ parse " TRUE AND(C)" = .ok right ∧
    parse "(A OR\tB)" = .ok left ∧
    parse "NOT (A OR\tB)" = .ok (.not left) ∧ parse "NOT(A OR\tB)" = .ok (.not left) ∧
    parse "(A OR\tB) AND ( TRUE AND(C))" = .ok (.and left right) ∧
    parse "(A OR\tB)AND( TRUE AND(C))" = .ok (.and left right) ∧
    parse "(A OR\tB) OR ( TRUE AND(C))" = .ok (.or left right) ∧
    parse "(A OR\tB)OR( TRUE AND(C))" = .ok (.or left right) := by
  intro left right
  have hl : parse "A OR\tB" = .ok left := by cbv
  have hr : parse " TRUE AND(C)" = .ok right := by cbv
  have h := parse_combined hl hr
  simp only [String.reduceAppend] at h
  exact ⟨hl, hr, h⟩

end Expr

end TriggerLogic
