import Mathlib.Data.List.Forall2
import TriggerLogic.Json.FilterConfig
import TriggerLogic.Proofs.Json.Layouts

namespace TriggerLogic.FilterConfig

open Json

section Renderings

def WritesConditions (conditions : List String) (s : List Char) : Prop :=
  ∃ vs, WritesArray vs s ∧ List.Forall₂ Quotes conditions vs

inductive WritesPolicy : Option Policy → List Char → Prop
  | null : WritesPolicy none ['n', 'u', 'l', 'l']
  | word {policy s} : WritesChoice policy.word s → WritesPolicy (some policy) s

def fieldNames : List String :=
  ["trigger_conditions", "failure_policy"]

/-- The entries of an object hold the configuration. A field that is left out has its default, and
only other names may be repeated. -/
structure Holds (config : FilterConfig) (es : List (String × List Char)) : Prop where
  conditions : ∀ v, ("trigger_conditions", v) ∈ es → WritesConditions config.conditions v
  policy : ∀ v, ("failure_policy", v) ∈ es → WritesPolicy config.policy v
  others : ∀ e ∈ es, e.1 ∉ fieldNames → WellFormed e.2
  once : es.Pairwise fun a b => a.1 = b.1 → a.1 ∉ fieldNames
  no_conditions : "trigger_conditions" ∉ es.map Prod.fst → config.conditions = []
  no_policy : "failure_policy" ∉ es.map Prod.fst → config.policy = none

/-- The elements of an array are the fields, without some that have their default at the end. -/
inductive Lists : FilterConfig → List (List Char) → Prop
  | nothing : Lists ⟨[], none⟩ []
  | conditions {conditions v} : WritesConditions conditions v → Lists ⟨conditions, none⟩ [v]
  | both {conditions policy v w} : WritesConditions conditions v → WritesPolicy policy w →
      Lists ⟨conditions, policy⟩ [v, w]

inductive Renders (config : FilterConfig) : List Char → Prop
  | object {es s} : WritesObject Quotes es s → Holds config es → Renders config s
  | array {vs s} : WritesArray vs s → Lists config vs → Renders config s

end Renderings

section Fields

variable {room : Nat} {conditions : List String} {policy : Option Policy} {v : List Char}

lemma takes_conditions (h : WritesConditions conditions v) :
    Takes (readConditions (room + 1)) v conditions := by
  obtain ⟨vs, hv, hs⟩ := h
  exact takes_array hv (hs.flip.imp fun _ _ => takes_text "a string")

lemma lookup_word (policy : Policy) : Policy.choices.lookup policy.word = some policy := by
  cases policy
  all_goals decide

lemma takes_policy (h : WritesPolicy policy v) : Takes (readPolicy (room + 1)) v policy := by
  cases h with
  | null =>
    refine ⟨⟨'n', _, rfl, rfl, by decide⟩, fun gap rest hg _ => ?_⟩
    rw [readPolicy, skipBlanks_gap hg, List.cons_append, skipBlanks_cons rfl]
    rfl
  | @word policy _ hw =>
    have ht : Takes (Policy.readJson (room + 1)) v policy := takes_choice hw (lookup_word policy)
    refine ⟨ht.starts, fun gap rest hg hr => ?_⟩
    obtain ⟨c, cs, rfl, hb, hn⟩ := hw.starts
    rw [readPolicy, skipBlanks_gap hg, List.cons_append, skipBlanks_cons hb]
    have he : Policy.readJson (room + 1) (c :: (cs ++ rest)) = .ok (policy, rest) :=
      ht.takes [] rest isGap_nil hr
    split
    · simp_all
    · rw [he]
      rfl

end Fields

section Members

variable {config : FilterConfig} {es : List (String × List Char)} {name : String} {v : List Char}
  {seen : List String}

def known (config : FilterConfig) (seen : List String) : Members where
  conditions := if "trigger_conditions" ∈ seen then some config.conditions else none
  policy := if "failure_policy" ∈ seen then some config.policy else none

lemma takesMember_known (room : Nat) (h : Holds config es) (he : (name, v) ∈ es)
    (hn : name ∈ fieldNames → name ∉ seen) :
    TakesMember (readMember (room + 1)) name v (known config seen) (known config (seen ++ [name])) := by
  intro gap gap' rest hg hg' hr
  by_cases hc : name = "trigger_conditions"
  · subst hc
    have hk : (known config seen).conditions = none := if_neg (hn (by decide))
    change (field "trigger_conditions" (known config seen).conditions _ _ >>= _) = _
    rw [hk, takesMember_field (takes_conditions (h.conditions v he)) hg hg' hr]
    simp [known]
  · by_cases hp : name = "failure_policy"
    · subst hp
      have hk : (known config seen).policy = none := if_neg (hn (by decide))
      change (field "failure_policy" (known config seen).policy _ _ >>= _) = _
      rw [hk, takesMember_field (takes_policy (h.policy v he)) hg hg' hr]
      simp [known]
    · have hf : name ∉ fieldNames := by simp [fieldNames, hc, hp]
      have hm : readMember (room + 1) name = ignored := by
        funext m s
        unfold readMember
        split
        · contradiction
        · contradiction
        · rfl
      have hk : known config (seen ++ [name]) = known config seen := by
        simp [known, Ne.symm hc, Ne.symm hp]
      rw [hm, hk]
      exact takesMember_ignored name (h.others _ he hf) gap gap' rest hg hg' hr

lemma takesMembers_known (room : Nat) (read : List (String × List Char)) (h : Holds config (read ++ es)) :
    TakesMembers (readMember (room + 1)) es (known config (read.map Prod.fst))
      (known config ((read ++ es).map Prod.fst)) := by
  -- The members that have been read say which fields may not come again.
  induction es generalizing read with
  | nil =>
    rw [List.append_nil]
    exact .nil
  | cons e es ih =>
    have hn : e.1 ∈ fieldNames → e.1 ∉ read.map Prod.fst := by
      intro hf hr
      obtain ⟨d, hd, hde⟩ := List.mem_map.mp hr
      have ho := (List.pairwise_append.mp h.once).2.2 d hd e List.mem_cons_self hde
      exact ho (hde ▸ hf)
    have hm := takesMember_known room h (List.mem_append_right read List.mem_cons_self) hn
    have ht := ih (read ++ [e]) (by simpa using h)
    rw [List.map_append, List.append_assoc] at ht
    exact .cons hm ht

lemma known_eq (h : Holds config es) :
    (known config (es.map Prod.fst)).conditions.getD [] = config.conditions ∧
    (known config (es.map Prod.fst)).policy.getD none = config.policy := by
  refine ⟨?_, ?_⟩
  · by_cases hc : "trigger_conditions" ∈ es.map Prod.fst
    · simp [known, hc]
    · simp [known, hc, h.no_conditions hc]
  · by_cases hp : "failure_policy" ∈ es.map Prod.fst
    · simp [known, hp]
    · simp [known, hp, h.no_policy hp]

end Members

section Elements

variable {α : Type} {read : Reader α} {a : α} {v s gap : List Char} {c : Char}

lemma elementOr_none (default : α) (first : Bool) (rest : List Char) (hg : IsGap gap) :
    elementOr default first read (gap ++ ']' :: rest) = .ok (default, gap ++ ']' :: rest) := by
  rw [elementOr, nextElement_none hg]
  rfl

lemma elementOr_first (default : α) (rest : List Char) (h : Takes read v a) (hp : Pads v s)
    (hc : c ∈ [',', ']', '}']) :
    ∃ after, IsGap after ∧ elementOr default true read (s ++ c :: rest) = .ok (a, after ++ c :: rest) := by
  obtain ⟨after, ha, hr, d, ds, hd, hn⟩ := h.padded hp rest hc
  refine ⟨after, ha, ?_⟩
  rw [elementOr, nextElement_first hd hn]
  exact hr

lemma elementOr_more (default : α) (rest : List Char) (h : Takes read v a) (hp : Pads v s)
    (hc : c ∈ [',', ']', '}']) (hg : IsGap gap) :
    ∃ after, IsGap after ∧
      elementOr default false read (gap ++ ',' :: (s ++ c :: rest)) = .ok (a, after ++ c :: rest) := by
  obtain ⟨after, ha, hr, d, ds, hd, hn⟩ := h.padded hp rest hc
  refine ⟨after, ha, ?_⟩
  rw [elementOr, nextElement_more hg hd hn]
  exact hr

end Elements

section Records

variable {config : FilterConfig} {vs : List (List Char)} {es : List (String × List Char)}
  {s rest : List Char}

lemma readFields_array (room : Nat) (rest : List Char) (h : WritesArray vs ('[' :: s))
    (hl : Lists config vs) :
    ∃ gap, IsGap gap ∧ readFields (room + 1) (s ++ rest) = .ok (config, gap ++ ']' :: rest) := by
  have hc : ',' ∈ [',', ']', '}'] := by decide
  have hm : ']' ∈ [',', ']', '}'] := by decide
  cases hl with
  | nothing =>
    obtain @⟨gap, hg⟩ | he := h
    · refine ⟨gap, hg, ?_⟩
      rw [List.append_assoc, List.singleton_append, readFields, elementOr_none [] true rest hg]
      change (elementOr _ _ _ _ >>= _) = _
      rw [elementOr_none none false rest hg]
      rfl
    · cases he
  | conditions hw =>
    obtain _ | @⟨_, s, he⟩ := h
    obtain hp | @⟨_, _, _, _, _, he⟩ := he
    · obtain ⟨gap, hg, hr⟩ := elementOr_first [] rest (takes_conditions hw) hp hm
      refine ⟨gap, hg, ?_⟩
      rw [List.append_assoc, List.singleton_append, readFields, hr]
      change (elementOr _ _ _ _ >>= _) = _
      rw [elementOr_none none false rest hg]
      rfl
    · cases he
  | both hw hw' =>
    obtain _ | @⟨_, s, he⟩ := h
    obtain _ | @⟨_, _, _, t, hp, he⟩ := he
    obtain hp' | @⟨_, _, _, _, _, he⟩ := he
    · obtain ⟨gap, hg, hr⟩ := elementOr_first [] (t ++ ']' :: rest) (takes_conditions hw) hp hc
      obtain ⟨gap', hg', hr'⟩ := elementOr_more none rest (takes_policy hw') hp' hm hg
      refine ⟨gap', hg', ?_⟩
      rw [List.append_assoc, List.singleton_append, List.append_assoc, List.cons_append, readFields, hr]
      change (elementOr _ _ _ _ >>= _) = _
      rw [hr']
      rfl
    · cases he

lemma readMembers_object (room : Nat) (h : WritesObject Quotes es ('{' :: s)) (hh : Holds config es) :
    readMembers (room + 1) (s ++ rest) = .ok (config, rest) := by
  have hl : s.length < (s ++ rest).length + 1 := by
    rw [List.length_append]
    omega
  have hm : TakesMembers (readMember (room + 1)) es {} (known config (es.map Prod.fst)) :=
    takesMembers_known room [] hh
  obtain ⟨hc, hp⟩ := known_eq hh
  rw [readMembers, takes_members h hm hl]
  change Except.ok (_, rest) = _
  rw [hc, hp]

lemma readJson_renders {room : Nat} {gap : List Char} (h : Renders config s) (hg : IsGap gap) :
    readJson (room + 2) (gap ++ (s ++ rest)) = .ok (config, rest) := by
  rw [readJson, readRecord.eq_def, skipBlanks_gap hg]
  cases h with
  | object ho hh =>
    obtain ⟨s, rfl⟩ : ∃ t, s = '{' :: t := by
      cases ho
      all_goals exact ⟨_, rfl⟩
    rw [List.cons_append, skipBlanks_cons rfl]
    exact readMembers_object room ho hh
  | array ha hl =>
    obtain ⟨s, rfl⟩ : ∃ t, s = '[' :: t := by
      cases ha
      all_goals exact ⟨_, rfl⟩
    obtain ⟨gap', hg', hr⟩ := readFields_array room rest ha hl
    rw [List.cons_append, skipBlanks_cons rfl]
    change (readFields _ _ >>= _) = _
    rw [hr]
    change (takeMark ']' _ >>= _) = _
    rw [takeMark_gap hg' rfl]
    rfl

lemma ofJson_of_renders {text : String} (h : Renders config s) (hp : Pads s text.toList) :
    ofJson text = .ok config := by
  obtain ⟨before, after, hb, ha, ht⟩ := hp
  have hr : readJson maxDepth (before ++ (s ++ after)) = .ok (config, after) := readJson_renders h hb
  have he : skipBlanks after = [] := by
    rw [← List.append_nil after, skipBlanks_gap ha]
    rfl
  rw [ofJson, readAll, ht, hr]
  change (if (skipBlanks after).isEmpty = true then _ else _) = _
  rw [he]
  rfl

end Records

section Written

variable {config : FilterConfig}

lemma writes_conditions (conditions : List String) :
    WritesConditions conditions (writeList writeString conditions).toList := by
  refine ⟨_, writes_writeList writeString conditions, ?_⟩
  rw [List.map_map, List.forall₂_map_right_iff, List.forall₂_same]
  exact fun text _ => quotes_writeString text

lemma toJson_writes (config : FilterConfig) :
    ∃ es, WritesObject Quotes es config.toJson.toList ∧ Holds config es ∧
    ("failure_policy" ∈ es.map Prod.fst ↔ config.policy ≠ none) := by
  obtain ⟨conditions, policy⟩ := config
  have hc := writes_conditions conditions
  cases policy with
  | none =>
    refine ⟨_, writes_writeObject _ _ [], ?_, by simp⟩
    constructor
    all_goals simp [hc, fieldNames]
  | some policy =>
    have hp : WritesPolicy (some policy) policy.toJson.toList :=
      .word (.word (quotes_writeString policy.word))
    refine ⟨_, writes_writeObject _ _ [_], ?_, by simp⟩
    constructor
    all_goals simp [hc, hp, fieldNames]

end Written

theorem ofJson_renders (config : FilterConfig) :
    (∃ es, WritesObject Quotes es config.toJson.toList ∧ Holds config es ∧
      ("failure_policy" ∈ es.map Prod.fst ↔ config.policy ≠ none)) ∧
    ofJson config.toJson = .ok config ∧
    ∀ text s, Pads s text.toList → Renders config s → ofJson text = .ok config := by
  obtain ⟨es, hw, hh, hp⟩ := toJson_writes config
  refine ⟨⟨es, hw, hh, hp⟩, ?_, fun text s ht hs => ofJson_of_renders hs ht⟩
  exact ofJson_of_renders (.object hw hh) (pads_self _)

theorem ofJson_renders_reordered :
    ofJson " \x7b\"note\":[-1.5e3],\"failure_policy\": null,\"trigger_conditions\":[\"\\u0041\"]\x7d" =
      .ok ⟨["A"], none⟩ := by
  have hd : ∀ c : Char, c.isDigit = true → IsDigits [c] := fun c hc => ⟨by simp, by simpa using hc⟩
  have hn : IsNumber ['-', '1', '.', '5', 'e', '3'] :=
    @IsNumber.mk ['-'] ['1'] ['.', '5'] ['e', '3'] (by decide) (hd _ rfl) (by decide) (.digits (hd _ rfl))
      (@IsExponent.digits 'e' [] ['3'] (by decide) (by decide) (hd _ rfl))
  have hv : WellFormed ['[', '-', '1', '.', '5', 'e', '3', ']'] :=
    .array (WritesArray.elements (.one (pads_self ['-', '1', '.', '5', 'e', '3']))) (by simpa using .number hn)
  have hx : ∀ n < 10, IsHexDigit n (Nat.digitChar n) := fun n hn => ⟨by omega, .inl rfl⟩
  have ha : Quotes "A" ['"', '\\', 'u', '0', '0', '4', '1', '"'] :=
    ⟨_, .cons (.unit (.mk (hx 0 (by decide)) (hx 0 (by decide)) (hx 4 (by decide)) (hx 1 (by decide)))) .nil, rfl⟩
  have hc : WritesConditions ["A"] ['[', '"', '\\', 'u', '0', '0', '4', '1', '"', ']'] :=
    ⟨_, WritesArray.elements (.one (pads_self ['"', '\\', 'u', '0', '0', '4', '1', '"'])), .cons ha .nil⟩
  have hh : Holds ⟨["A"], none⟩ [("note", ['[', '-', '1', '.', '5', 'e', '3', ']']),
      ("failure_policy", ['n', 'u', 'l', 'l']),
      ("trigger_conditions", ['[', '"', '\\', 'u', '0', '0', '4', '1', '"', ']'])] := by
    constructor
    all_goals simp [fieldNames, hc, hv, WritesPolicy.null]
  have hb : IsGap [' '] := by simp [IsGap]
  have hp : Pads ['n', 'u', 'l', 'l'] [' ', 'n', 'u', 'l', 'l'] := ⟨[' '], [], hb, isGap_nil, rfl⟩
  have hs := Renders.object (.entries (.more (quotes_writeString _) (pads_self _) (pads_self _)
    (.more (quotes_writeString _) (pads_self _) hp (.one (quotes_writeString _) (pads_self _) (pads_self _))))) hh
  refine (ofJson_renders ⟨["A"], none⟩).2.2 _ _ ⟨[' '], [], hb, isGap_nil, ?_⟩ hs
  simp [toList_writeString, writeChar, letterEscapes, isControl]

end TriggerLogic.FilterConfig
