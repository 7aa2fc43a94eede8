import TriggerLogic.Proofs.Descent
import TriggerLogic.Proofs.Lexing

namespace TriggerLogic.Grammar

open Token Parse

def ReadsAs (text : String) (tree : Expr) : Prop :=
  ∃ ts, tokenize text = .ok ts ∧ Derives .disjunction (ts.dropLast.map Token.kind) tree

lemma eq_of_append_eq {used body rest : List Token} {p : Nat}
    (hu : .stop ∉ used.map Token.kind) (hb : .stop ∉ body.map Token.kind)
    (hr : (peek rest).kind = .stop) (h : used ++ rest = body ++ [⟨.stop, p⟩]) : used = body := by
  rcases List.append_eq_append_iff.mp h with ⟨more, hm, hrest⟩ | ⟨more, hm, hrest⟩
  · cases more with
    | nil => simpa using hm.symm
    | cons t more =>
      subst hm hrest
      exact absurd hr (by simp_all [peek])
  · cases more with
    | nil => simpa using hm
    | cons t more =>
      simp only [List.cons_append, List.cons.injEq] at hrest
      obtain ⟨rfl, -⟩ := hrest
      simp [hm] at hu

lemma ofTokens_eq_ok_iff {ts : List Token} {e : Expr} (hts : Ended ts) :
    ofTokens ts = .ok e ↔ Derives .disjunction (ts.dropLast.map Token.kind) e := by
  obtain ⟨body, p, rfl, hb⟩ := hts
  rw [List.dropLast_concat, ofTokens_eq]
  constructor
  · intro h
    split at h
    · cases h
    · obtain ⟨⟨e', rest⟩, hd, hr⟩ := bind_eq_ok h
      obtain ⟨used, hu, hder⟩ := (disjunction_reads _ hd).takes
      split at hr
      · rename_i hstop
        cases hr
        rwa [← eq_of_append_eq hder.stop_notMem hb hstop hu.symm]
      · cases hr
      · cases hr
  · intro h
    have hreads : Reads .disjunction (body ++ [⟨.stop, p⟩]) e [⟨.stop, p⟩] :=
      ⟨⟨body, rfl, h⟩, by simp [Follow, peek]⟩
    have hstart := lacksOperand_append h [⟨.stop, p⟩]
    rw [if_neg (fun hs => by simp [lacksOperand, hs] at hstart), disjunction_of_reads hreads]
    rfl

lemma parse_eq_ok_iff {text : String} {e : Expr} : Expr.parse text = .ok e ↔ ReadsAs text e := by
  rw [Expr.parse, ReadsAs]
  cases h : tokenize text with
  | error err => simp
  | ok ts => simp [ofTokens_eq_ok_iff (tokenize_ended h)]

lemma names_dropLast {ts : List Token} (h : Ended ts) :
    names (ts.dropLast.map Token.kind) = names (ts.map Token.kind) := by
  obtain ⟨body, p, rfl, -⟩ := h
  simp [names_append, names]

theorem parse_eq_ok_iff_derives {text : String} {ts : List Token} (h : tokenize text = .ok ts)
    (e : Expr) :
    (Expr.parse text = .ok e ↔ Derives .disjunction (ts.dropLast.map Token.kind) e) ∧
    (Expr.parse text = .ok e →
      e.patterns = names (ts.map Token.kind) ∧
      e.leaves = (names (ts.map Token.kind)).map fun n =>
        { pattern := n, level := .classify n, bindings := [], bound := false }) := by
  have hiff : Expr.parse text = .ok e ↔ Derives .disjunction (ts.dropLast.map Token.kind) e := by
    simp [parse_eq_ok_iff, ReadsAs, h]
  refine ⟨hiff, fun hp => ?_⟩
  have hl := (hiff.mp hp).leaves
  rw [names_dropLast (tokenize_ended h)] at hl
  refine ⟨?_, hl⟩
  rw [Expr.patterns, hl, List.map_map]
  exact List.map_id _

theorem parse_group_under_not :
    tokenize "A AND NOT(L1_X* OR B)" = .ok [⟨.name "A", 0⟩, ⟨.operator .and, 2⟩,
      ⟨.operator .not, 6⟩, ⟨.openParen, 9⟩, ⟨.name "L1_X*", 10⟩, ⟨.operator .or, 16⟩,
      ⟨.name "B", 19⟩, ⟨.closeParen, 20⟩, ⟨.stop, 21⟩] ∧
    Derives .disjunction [.name "A", .operator .and, .operator .not, .openParen, .name "L1_X*",
      .operator .or, .name "B", .closeParen]
      (.and (.leaf ⟨"A", .path, [], false⟩)
        (.not (.or (.leaf ⟨"L1_X*", .seed, [], false⟩) (.leaf ⟨"B", .path, [], false⟩)))) ∧
    (Expr.and (.leaf ⟨"A", .path, [], false⟩)
      (.not (.or (.leaf ⟨"L1_X*", .seed, [], false⟩) (.leaf ⟨"B", .path, [], false⟩)))).patterns =
        ["A", "L1_X*", "B"] := by
  have h : tokenize "A AND NOT(L1_X* OR B)" = .ok [⟨.name "A", 0⟩, ⟨.operator .and, 2⟩,
      ⟨.operator .not, 6⟩, ⟨.openParen, 9⟩, ⟨.name "L1_X*", 10⟩, ⟨.operator .or, 16⟩,
      ⟨.name "B", 19⟩, ⟨.closeParen, 20⟩, ⟨.stop, 21⟩] := by cbv
  have hp : Expr.parse "A AND NOT(L1_X* OR B)" = .ok (.and (.leaf ⟨"A", .path, [], false⟩)
      (.not (.or (.leaf ⟨"L1_X*", .seed, [], false⟩) (.leaf ⟨"B", .path, [], false⟩)))) := by
    rw [Expr.parse, h]
    cbv
  obtain ⟨hiff, hleaves⟩ := parse_eq_ok_iff_derives h
    (.and (.leaf ⟨"A", .path, [], false⟩)
      (.not (.or (.leaf ⟨"L1_X*", .seed, [], false⟩) (.leaf ⟨"B", .path, [], false⟩))))
  exact ⟨h, hiff.mp hp, (hleaves hp).1⟩

end TriggerLogic.Grammar
