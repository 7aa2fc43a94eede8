import TriggerLogic.Proofs.Json.WellFormed

namespace TriggerLogic.Json

section Readers

variable {α : Type} {read : Reader α} {a : α} {as : List α} {v s rest gap : List Char}
  {vs : List (List Char)} {text : String}

/-- The reader takes the value out of its text and leaves what stands behind. -/
structure Takes (read : Reader α) (v : List Char) (a : α) : Prop where
  starts : ∃ c cs, v = c :: cs ∧ isBlank c = false ∧ c ≠ ']'
  takes : ∀ gap rest, IsGap gap → EndsNumber rest → read (gap ++ (v ++ rest)) = .ok (a, rest)

lemma takes_text (expected : String) (h : Quotes text v) : Takes (readText expected) v text := by
  obtain ⟨body, hs, rfl⟩ := h
  refine ⟨⟨'"', _, rfl, rfl, by decide⟩, fun gap rest hg _ => ?_⟩
  rw [readText, skipBlanks_gap hg, List.cons_append, skipBlanks_cons rfl, List.append_assoc]
  exact readString_spelled hs

lemma nextElement_none {first : Bool} (hg : IsGap gap) :
    nextElement first (gap ++ ']' :: rest) = .ok none := by
  rw [nextElement, skipBlanks_gap hg, skipBlanks_cons rfl]
  rfl

lemma nextElement_first {c : Char} {cs : List Char} (h : skipBlanks s = c :: cs) (hc : c ≠ ']') :
    nextElement true s = .ok (some (skipBlanks s)) := by
  rw [nextElement, h]
  simp

lemma nextElement_more {c : Char} {cs : List Char} (hg : IsGap gap) (h : skipBlanks s = c :: cs)
    (hc : c ≠ ']') : nextElement false (gap ++ ',' :: s) = .ok (some (skipBlanks s)) := by
  have hs : skipBlanks (gap ++ ',' :: s) = ',' :: s := by
    rw [skipBlanks_gap hg, skipBlanks_cons rfl]
  rw [nextElement, hs]
  simp [h, hc]

lemma Takes.padded (h : Takes read v a) (hp : Pads v s) (rest : List Char) {c : Char}
    (hc : c ∈ [',', ']', '}']) : ∃ after, IsGap after ∧
      read (skipBlanks (s ++ c :: rest)) = .ok (a, after ++ c :: rest) ∧
      ∃ d ds, skipBlanks (s ++ c :: rest) = d :: ds ∧ d ≠ ']' := by
  obtain ⟨before, after, hb, ha, rfl⟩ := hp
  obtain ⟨d, ds, hd, hblank, hn⟩ := h.starts
  have hs : skipBlanks (before ++ (v ++ after) ++ c :: rest) = v ++ (after ++ c :: rest) := by
    rw [List.append_assoc, List.append_assoc, skipBlanks_gap hb, hd]
    exact skipBlanks_cons hblank
  refine ⟨after, ha, ?_, d, ds ++ (after ++ c :: rest), by rw [hs, hd]; rfl, hn⟩
  rw [hs]
  exact h.takes [] _ isGap_nil (ha.endsNumber (endsNumber_cons hc))

lemma elements_nil {bound : Nat} (hb : 0 < bound) (hg : IsGap gap) :
    elements read bound false (gap ++ ']' :: rest) = .ok ([], gap ++ ']' :: rest) := by
  obtain ⟨bound, rfl⟩ := Nat.exists_eq_add_one.mpr hb
  rw [elements, nextElement_none hg]
  rfl

lemma Elements.length_le (h : Elements vs s) : vs.length ≤ s.length + 1 := by
  induction h with
  | one => simp
  | more _ _ ih =>
    simp only [List.length_append, List.length_cons]
    omega

lemma Elements.starts (h : Elements vs s) (hs : List.Forall₂ (Takes read) vs as) (rest : List Char) :
    ∃ c cs, skipBlanks (s ++ ']' :: rest) = c :: cs ∧ c ≠ ']' := by
  cases h with
  | one hp =>
    obtain _ | ⟨hv, _⟩ := hs
    have hc : ']' ∈ [',', ']', '}'] := by decide
    obtain ⟨-, -, -, hd⟩ := hv.padded hp rest hc
    exact hd
  | @more _ _ _ t hp _ =>
    obtain _ | ⟨hv, _⟩ := hs
    have hc : ',' ∈ [',', ']', '}'] := by decide
    obtain ⟨-, -, -, hd⟩ := hv.padded hp (t ++ ']' :: rest) hc
    rwa [List.append_assoc]

lemma elements_of (h : Elements vs s) (hs : List.Forall₂ (Takes read) vs as) {bound : Nat}
    (hb : vs.length < bound) {first : Bool} {start : List Char}
    (hf : nextElement first start = .ok (some (skipBlanks (s ++ ']' :: rest)))) :
    ∃ gap, IsGap gap ∧ elements read bound first start = .ok (as, gap ++ ']' :: rest) := by
  obtain ⟨bound, rfl⟩ := Nat.exists_eq_add_one.mpr (Nat.zero_lt_of_lt hb)
  -- The reader is found behind the bracket first and then behind each element, so `start` changes.
  induction h generalizing as bound first start with
  | one hp =>
    obtain _ | ⟨hv, _ | _⟩ := hs
    have hc : ']' ∈ [',', ']', '}'] := by decide
    obtain ⟨after, ha, hr, -⟩ := hv.padded hp rest hc
    refine ⟨after, ha, ?_⟩
    rw [elements, hf]
    change (read _ >>= _) = _
    rw [hr]
    change (elements read _ _ _ >>= _) = _
    rw [elements_nil (by simpa using hb) ha]
    rfl
  | @more _ _ _ t hp ht ih =>
    obtain _ | ⟨hv, hs⟩ := hs
    obtain ⟨bound, rfl⟩ := Nat.exists_eq_add_one.mpr (Nat.zero_lt_of_lt (Nat.lt_of_succ_lt_succ hb))
    have hc : ',' ∈ [',', ']', '}'] := by decide
    obtain ⟨after, ha, hr, -⟩ := hv.padded hp (t ++ ']' :: rest) hc
    obtain ⟨c, cs, hd, hn⟩ := ht.starts hs rest
    obtain ⟨gap, hg, hr'⟩ := ih hs (nextElement_more ha hd hn) bound (Nat.lt_of_succ_lt_succ hb)
    refine ⟨gap, hg, ?_⟩
    rw [List.append_assoc] at hf
    rw [elements, hf]
    change (read _ >>= _) = _
    rw [List.cons_append, hr]
    change (elements read _ _ _ >>= _) = _
    rw [hr']
    rfl

lemma takes_array {read : Nat → Reader α} {room : Nat} (h : WritesArray vs s)
    (hs : List.Forall₂ (Takes (read room)) vs as) : Takes (readList read (room + 1)) s as := by
  cases h with
  | @empty gap hg =>
    obtain _ | _ := hs
    refine ⟨⟨'[', _, rfl, rfl, by decide⟩, fun gap' rest hg' _ => ?_⟩
    rw [readList.eq_def, skipBlanks_gap hg', List.cons_append, skipBlanks_cons rfl, List.append_assoc]
    change (elements _ _ _ _ >>= _) = _
    rw [elements, List.singleton_append, nextElement_none hg]
    change (takeMark ']' _ >>= _) = _
    rw [takeMark_gap hg rfl]
    rfl
  | @elements _ s he =>
    refine ⟨⟨'[', _, rfl, rfl, by decide⟩, fun gap' rest hg' _ => ?_⟩
    obtain ⟨c, cs, hc, hn⟩ := he.starts hs rest
    have hb : vs.length < (s ++ ']' :: rest).length + 1 := by
      have hl := he.length_le
      rw [List.length_append, List.length_cons]
      omega
    obtain ⟨gap, hg, hr⟩ := elements_of he hs hb (nextElement_first hc hn)
    rw [readList.eq_def, skipBlanks_gap hg', List.cons_append, skipBlanks_cons rfl, List.append_assoc]
    change (elements _ _ _ _ >>= _) = _
    rw [List.singleton_append, hr]
    change (takeMark ']' _ >>= _) = _
    rw [takeMark_gap hg rfl]
    rfl

end Readers

section Members

variable {σ : Type} {member : String → σ → Reader σ}

def TakesMember (member : String → σ → Reader σ) (name : String) (v : List Char)
    (state state' : σ) : Prop :=
  ∀ gap gap' rest, IsGap gap → IsGap gap' → EndsNumber rest →
    member name state (gap ++ ':' :: (gap' ++ (v ++ rest))) = .ok (state', rest)

inductive TakesMembers (member : String → σ → Reader σ) : List (String × List Char) → σ → σ → Prop
  | nil {state} : TakesMembers member [] state state
  | cons {name v es state mid state'} : TakesMember member name v state mid →
      TakesMembers member es mid state' → TakesMembers member ((name, v) :: es) state state'

variable {state state' : σ} {v s rest gap key : List Char} {es : List (String × List Char)}
  {name : String}

lemma Entries.length_le {α : Type} {spells : α → List Char → Prop} {es : List (α × List Char)}
    (h : Entries spells es s) : es.length ≤ s.length := by
  induction h with
  | one =>
    simp only [List.length_append, List.length_cons, List.length_nil]
    omega
  | more _ _ _ _ ih =>
    simp only [List.length_append, List.length_cons]
    omega

lemma nextKey_none (first : Bool) (hg : IsGap gap) :
    nextKey first (gap ++ '}' :: rest) = .ok (.inr rest) := by
  rw [nextKey, skipBlanks_gap hg, skipBlanks_cons rfl]
  rfl

lemma nextKey_more (hg : IsGap gap) : nextKey false (gap ++ ',' :: s) = (takeMark '"' s).map .inl := by
  rw [nextKey, skipBlanks_gap hg, skipBlanks_cons rfl]
  rfl

lemma Pads.takeMark_key (hp : Pads key s) (hq : Quotes name key) :
    ∃ body after, SpellsChars name.toList body ∧ IsGap after ∧ ∀ rest,
      takeMark '"' (s ++ rest) = .ok (body ++ '"' :: (after ++ rest)) ∧
      nextKey true (s ++ rest) = (takeMark '"' (s ++ rest)).map .inl := by
  obtain ⟨before, after, hb, ha, rfl⟩ := hp
  obtain ⟨body, hs, rfl⟩ := hq
  refine ⟨body, after, hs, ha, fun rest => ?_⟩
  have ht : takeMark '"' (before ++ ('"' :: (body ++ ['"']) ++ after) ++ rest) =
      .ok (body ++ '"' :: (after ++ rest)) := by
    rw [List.append_assoc, List.append_assoc, List.cons_append, takeMark_gap hb rfl]
    simp
  refine ⟨ht, ?_⟩
  rw [ht, nextKey, List.append_assoc, List.append_assoc, skipBlanks_gap hb, List.cons_append,
    skipBlanks_cons rfl]
  simp [Except.map]

lemma Entries.nextKey_true (h : Entries Quotes es s) (rest : List Char) :
    nextKey true (s ++ rest) = (takeMark '"' (s ++ rest)).map .inl := by
  cases h with
  | one hq hk =>
    rw [List.append_assoc]
    obtain ⟨_, _, -, -, h⟩ := hk.takeMark_key hq
    exact (h _).2
  | more hq hk =>
    rw [List.append_assoc]
    obtain ⟨_, _, -, -, h⟩ := hk.takeMark_key hq
    exact (h _).2

lemma members_nil {bound : Nat} (hb : 0 < bound) (first : Bool) (hg : IsGap gap) :
    members member bound first state (gap ++ '}' :: rest) = .ok (state, rest) := by
  obtain ⟨bound, rfl⟩ := Nat.exists_eq_add_one.mpr hb
  rw [members, nextKey_none first hg]
  rfl

lemma TakesMember.members {mid : σ} {t : List Char} (h : TakesMember member name v state mid)
    (hq : Quotes name key) (hk : Pads key s) (hp : Pads v t) {c : Char} (hc : c ∈ [',', ']', '}'])
    {bound : Nat} {first : Bool} {start : List Char}
    (hs : nextKey first start = (takeMark '"' (s ++ ':' :: (t ++ c :: rest))).map .inl) :
    ∃ gap, IsGap gap ∧ members member (bound + 1) first state start =
      Json.members member bound false mid (gap ++ c :: rest) := by
  obtain ⟨body, after, hb, ha, ht⟩ := hk.takeMark_key hq
  obtain ⟨before, after', hb', ha', rfl⟩ := hp
  have hr : EndsNumber (after' ++ c :: rest) := ha'.endsNumber (endsNumber_cons hc)
  refine ⟨after', ha', ?_⟩
  rw [Json.members, hs, (ht _).1]
  change (readString _ >>= _) = _
  rw [readString_spelled hb]
  change (member name state _ >>= _) = _
  rw [List.append_assoc, List.append_assoc, h after before _ ha hb' hr]
  rfl

lemma members_of (h : Entries Quotes es s) (hf : TakesMembers member es state state') {bound : Nat}
    (hb : es.length < bound) {first : Bool} {start : List Char}
    (hs : nextKey first start = (takeMark '"' (s ++ '}' :: rest)).map .inl) :
    members member bound first state start = .ok (state', rest) := by
  obtain ⟨bound, rfl⟩ := Nat.exists_eq_add_one.mpr (Nat.zero_lt_of_lt hb)
  induction h generalizing state bound first start with
  | one hq hk hp =>
    obtain _ | ⟨hv, _ | _⟩ := hf
    rw [List.append_assoc] at hs
    obtain ⟨gap, hg, hm⟩ := hv.members hq hk hp (by decide) hs
    rw [hm, members_nil (by simpa using hb) false hg]
  | more hq hk hp _ ih =>
    obtain _ | ⟨hv, hf⟩ := hf
    rw [List.append_assoc, List.cons_append, List.append_assoc] at hs
    obtain ⟨bound, rfl⟩ := Nat.exists_eq_add_one.mpr (Nat.zero_lt_of_lt (Nat.lt_of_succ_lt_succ hb))
    obtain ⟨gap, hg, hm⟩ := hv.members hq hk hp (by decide) hs
    rw [hm]
    exact ih hf (nextKey_more hg) bound (Nat.lt_of_succ_lt_succ hb)

lemma takes_members (h : WritesObject Quotes es ('{' :: s)) (hf : TakesMembers member es state state')
    {bound : Nat} (hb : s.length < bound) :
    members member bound true state (s ++ rest) = .ok (state', rest) := by
  cases h with
  | @empty gap hg =>
    obtain _ | _ := hf
    rw [List.append_assoc]
    exact members_nil (Nat.zero_lt_of_lt hb) true hg
  | @entries _ s he =>
    have hl := he.length_le
    have hn : es.length < bound := by
      rw [List.length_append] at hb
      omega
    rw [List.append_assoc]
    exact members_of he hf hn (he.nextKey_true _)

lemma takesMember_field {α : Type} {read : Reader α} {a : α} (h : Takes read v a) (hg : IsGap gap)
    {gap' : List Char} (hg' : IsGap gap') (hr : EndsNumber rest) :
    field name none read (gap ++ ':' :: (gap' ++ (v ++ rest))) = .ok (some a, rest) := by
  rw [field, takeMark_gap hg rfl]
  change (read _ >>= _) = _
  rw [h.takes _ _ hg' hr]
  rfl

lemma takesMember_ignored (name : String) (h : WellFormed v) :
    TakesMember (fun _ => ignored) name v state state := by
  intro gap gap' rest hg hg' hr
  change (takeMark ':' _ >>= _) = _
  rw [takeMark_gap hg rfl]
  change (skipValue _ >>= _) = _
  rw [h.skipValue hg' hr]
  rfl

end Members

section Choices

inductive WritesChoice (name : String) : List Char → Prop
  | word {s} : Quotes name s → WritesChoice name s
  | entry {s} : WritesObject Quotes [(name, ['n', 'u', 'l', 'l'])] s → WritesChoice name s

variable {v s key : List Char} {name : String}

lemma WritesChoice.starts (h : WritesChoice name v) :
    ∃ c cs, v = c :: cs ∧ isBlank c = false ∧ c ≠ 'n' := by
  cases h with
  | word hq =>
    obtain ⟨body, -, rfl⟩ := hq
    exact ⟨_, _, rfl, rfl, by decide⟩
  | entry ho =>
    cases ho
    exact ⟨_, _, rfl, rfl, by decide⟩

lemma Pads.readKey (hp : Pads key s) (hq : Quotes name key) :
    ∃ after, IsGap after ∧ ∀ rest, readKey (s ++ rest) = .ok (name, after ++ rest) := by
  obtain ⟨body, after, hs, ha, ht⟩ := hp.takeMark_key hq
  refine ⟨after, ha, fun rest => ?_⟩
  rw [Json.readKey, (ht rest).1]
  exact readString_spelled hs

lemma takeNull_gap {gap rest : List Char} (hg : IsGap gap) :
    takeNull (gap ++ 'n' :: 'u' :: 'l' :: 'l' :: rest) = .ok rest := by
  rw [takeNull, skipBlanks_gap hg, skipBlanks_cons rfl]
  rfl

lemma takes_choice {α : Type} {choices : List (String × α)} {a : α} {room : Nat} (h : WritesChoice name v)
    (ha : choices.lookup name = some a) : Takes (readChoice choices (room + 1)) v a := by
  have hv : variant choices name = .ok a := by rw [variant, ha]
  cases h with
  | word hq =>
    obtain ⟨body, hs, rfl⟩ := hq
    refine ⟨⟨'"', _, rfl, rfl, by decide⟩, fun gap rest hg _ => ?_⟩
    rw [readChoice.eq_def, skipBlanks_gap hg, List.cons_append, skipBlanks_cons rfl, List.append_assoc]
    change (readString (body ++ '"' :: rest) >>= _) = _
    rw [readString_spelled hs]
    change (variant choices name >>= _) = _
    rw [hv]
    rfl
  | entry ho =>
    obtain _ | @⟨_, s, he⟩ := ho
    refine ⟨⟨'{', _, rfl, rfl, by decide⟩, fun gap rest hg _ => ?_⟩
    cases he with
    | one hq hk hp =>
      obtain ⟨before, after, hb, ha, rfl⟩ := hp
      obtain ⟨gap', hg', hr⟩ := hk.readKey hq
      rw [readChoice.eq_def, skipBlanks_gap hg, List.cons_append, skipBlanks_cons rfl]
      simp only [List.append_assoc, List.cons_append, List.nil_append]
      rw [hr]
      change (variant choices name >>= _) = _
      rw [hv]
      change (takeMark ':' _ >>= _) = _
      rw [takeMark_gap hg' rfl]
      change (takeNull _ >>= _) = _
      rw [takeNull_gap hb]
      change (takeMark '}' _ >>= _) = _
      rw [takeMark_gap ha rfl]
      rfl
    | more _ _ _ he => cases he

end Choices

end TriggerLogic.Json
