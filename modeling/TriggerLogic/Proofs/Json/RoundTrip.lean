import Mathlib
import TriggerLogic.Proofs.Json.Postconditions
import TriggerLogic.Proofs.Json.Written

/-! A written tree is read back if its containers do not nest deeper than the reader goes, and is no
JSON for the reader if they do. No text is read as a tree that nests deeper. -/

namespace TriggerLogic

open Json

namespace Binding

variable {b : Binding}

lemma members_written (h : b.index < UInt64.size) {bound : Nat} (hbound : 2 < bound) {rest : List Char} :
    members readMember bound true {} ((writeString "name").toList ++
        ':' :: ((writeString b.name).toList ++ ',' :: ((writeString "index").toList ++
        ':' :: ((toString b.index).toList ++ '}' :: rest)))) =
      .ok (⟨some b.name, some b.index⟩, rest) := by
  rw [members_first (by omega), readMember, field_next (reads_text _ _)]
  change members readMember _ _ ⟨some b.name, none⟩ _ = _
  rw [members_next (by omega), readMember, field_last (reads_index h)]
  change members readMember _ _ ⟨some b.name, some b.index⟩ _ = _
  rw [members_last (by omega)]

lemma reads_toJson (h : b.index < UInt64.size) (room : Nat) :
    Reads (readJson room) b.toJson (within 1 room b) := by
  refine ⟨⟨'{', _, toList_writeObject _ _ _, rfl, by decide⟩, fun rest _ => ?_⟩
  rw [toJson, toList_writeObject]
  cases room with
  | zero => rfl
  | succ room =>
    simp only [List.flatMap_cons, List.flatMap_nil, List.append_nil, List.append_assoc, List.cons_append,
      List.nil_append]
    change readMembers _ = _
    rw [readMembers, members_written h (by simp; omega)]
    rfl

lemma readJson_yields (room : Nat) :
    Yields (readJson room) fun b => 0 < room ∧ b.index < UInt64.size := by
  refine readRecord_yields (fun n hn s => ?_) (fun n hn s => ?_)
  · rw [readFields]
    refine (gives_any _).bind fun ⟨name, s⟩ _ => ?_
    refine (element_yields readIndex_lt _ _ _).bind fun ⟨index, s⟩ hi => ?_
    exact gives_ok ⟨by omega, hi⟩
  · have hk : ∀ key m, (∀ i ∈ m.index, i < UInt64.size) →
        Yields (readMember key m) fun m => ∀ i ∈ m.index, i < UInt64.size := by
      intro key m hm s
      rw [readMember.eq_def]
      split
      · refine (gives_any _).bind fun ⟨name, s⟩ _ => ?_
        exact gives_ok hm
      · refine (field_yields readIndex_lt _ _ _).bind fun ⟨index, s⟩ hi => ?_
        exact gives_ok hi
      · exact (ignored_yields m s).imp fun x hx => hx ▸ hm
    rw [readMembers]
    refine (members_yields hk _ _ (by simp) _).bind fun ⟨m, s⟩ hm => ?_
    refine (gives_any _).bind fun name _ => ?_
    refine (require_gives hm _).bind fun index hi => ?_
    exact gives_ok ⟨by omega, hi⟩

end Binding

namespace Leaf

variable {l : Leaf}

def nesting (l : Leaf) : Nat :=
  if l.bindings = [] then 2 else 3

def Indexed (l : Leaf) : Prop :=
  ∀ b ∈ l.bindings, b.index < UInt64.size

lemma members_written {room bound depth : Nat} {rest : List Char} (hbound : 4 < bound)
    (hb : Reads (readList Binding.readJson room) (writeList Binding.toJson l.bindings)
      (within depth room l.bindings)) :
    members (readMember room) bound true {} ((writeString "pattern").toList ++
        ':' :: ((writeString l.pattern).toList ++ ',' :: ((writeString "namespace").toList ++
        ':' :: (l.level.toJson.toList ++ ',' :: ((writeString "bindings").toList ++
        ':' :: ((writeList Binding.toJson l.bindings).toList ++ ',' :: ((writeString "initialized").toList ++
        ':' :: ((writeBool l.bound).toList ++ '}' :: rest)))))))) =
      within depth room (⟨some l.pattern, some l.level, some l.bindings, some l.bound⟩, rest) := by
  have hl : Reads (Level.readJson room) l.level.toJson (.ok l.level) := by
    cases l.level <;> exact reads_choice rfl room
  rw [members_first (by omega), readMember, field_next (reads_text _ _)]
  change members (readMember room) _ _ ⟨some l.pattern, none, none, none⟩ _ = _
  rw [members_next (by omega), readMember, field_next hl]
  change members (readMember room) _ _ ⟨some l.pattern, some l.level, none, none⟩ _ = _
  rw [members_next (by omega), readMember, field_next hb, within, within]
  split
  · change members (readMember room) _ _ ⟨some l.pattern, some l.level, some l.bindings, none⟩ _ = _
    rw [members_next (by omega), readMember, field_last (reads_bool _)]
    change members (readMember room) _ _ ⟨some l.pattern, some l.level, some l.bindings, some l.bound⟩ _ = _
    rw [members_last (by omega)]
  · rfl

lemma reads_writeObject {room depth : Nat}
    (hb : Reads (readList Binding.readJson room) (writeList Binding.toJson l.bindings)
      (within depth room l.bindings)) :
    Reads (readJson (room + 1)) l.toJson (within depth room l) := by
  refine ⟨⟨'{', _, toList_writeObject _ _ _, rfl, by decide⟩, fun rest _ => ?_⟩
  rw [toJson, toList_writeObject]
  simp only [List.flatMap_cons, List.flatMap_nil, List.append_nil, List.append_assoc, List.cons_append,
    List.nil_append]
  change readMembers room _ = _
  rw [readMembers, members_written (by simp; omega) hb, map_within, within, within]
  split
  · rfl
  · rfl

lemma reads_toJson (h : l.Indexed) (room : Nat) :
    Reads (readJson room) l.toJson (within l.nesting room l) := by
  have hn : l.nesting = 1 + (1 + if l.bindings = [] then 0 else 1) := by
    rw [nesting]
    split
    · rfl
    · rfl
  rw [hn]
  cases room with
  | zero =>
    refine ⟨⟨'{', _, toList_writeObject _ _ _, rfl, by decide⟩, fun rest _ => ?_⟩
    rw [within_zero (by omega), toJson, toList_writeObject]
    rfl
  | succ room =>
    rw [within_add]
    exact reads_writeObject (reads_list_within (fun b hb => Binding.reads_toJson (h b hb)) room)

def Fits (room : Nat) (bindings : List Binding) : Prop :=
  0 < room ∧ ∀ b ∈ bindings, 1 < room ∧ b.index < UInt64.size

lemma readList_yields (room : Nat) : Yields (readList Binding.readJson room) (Fits room) := by
  refine Json.readList_yields fun n hn => ?_
  refine (Binding.readJson_yields n).imp fun b hb => ⟨by omega, hb.2⟩

lemma Fits.nesting_le {room : Nat} {l : Leaf} (h : Fits room l.bindings) : l.nesting ≤ room + 1 ∧ l.Indexed := by
  refine ⟨?_, fun b hb => (h.2 b hb).2⟩
  rw [nesting]
  split
  · have := h.1
    omega
  · obtain ⟨b, hb⟩ := List.exists_mem_of_ne_nil _ ‹_›
    have := (h.2 b hb).1
    omega

lemma readJson_yields (room : Nat) : Yields (readJson room) fun l => l.nesting ≤ room ∧ l.Indexed := by
  refine readRecord_yields (fun n hn s => ?_) (fun n hn s => ?_)
  · rw [readFields]
    refine (gives_any _).bind fun ⟨pattern, s⟩ _ => ?_
    refine (gives_any _).bind fun ⟨level, s⟩ _ => ?_
    refine (element_yields (readList_yields n) _ _ _).bind fun ⟨bindings, s⟩ hb => ?_
    refine (gives_any _).bind fun ⟨bound, s⟩ _ => ?_
    exact gives_ok (hn ▸ hb.nesting_le)
  · have hk : ∀ key m, (∀ bs ∈ m.bindings, Fits n bs) →
        Yields (readMember n key m) fun m => ∀ bs ∈ m.bindings, Fits n bs := by
      intro key m hm s
      rw [readMember.eq_def]
      split
      · refine (gives_any _).bind fun ⟨pattern, s⟩ _ => ?_
        exact gives_ok hm
      · refine (gives_any _).bind fun ⟨level, s⟩ _ => ?_
        exact gives_ok hm
      · refine (field_yields (readList_yields n) _ _ _).bind fun ⟨bindings, s⟩ hb => ?_
        exact gives_ok hb
      · refine (gives_any _).bind fun ⟨bound, s⟩ _ => ?_
        exact gives_ok hm
      · exact (ignored_yields m s).imp fun x hx => hx ▸ hm
    rw [readMembers]
    refine (members_yields hk _ _ (by simp) _).bind fun ⟨m, s⟩ hm => ?_
    refine (gives_any _).bind fun pattern _ => ?_
    refine (gives_any _).bind fun level _ => ?_
    refine (require_gives hm _).bind fun bindings hb => ?_
    refine (gives_any _).bind fun bound _ => ?_
    exact gives_ok (hn ▸ hb.nesting_le)

end Leaf

namespace Expr

variable {e : Expr}

/-- How deep the containers in the written tree stand in each other. -/
def nesting : Expr → Nat
  | constant _ => 1
  | leaf l => 1 + l.nesting
  | not e => 1 + e.nesting
  | and l r | or l r => 2 + max l.nesting r.nesting

def Indexed (e : Expr) : Prop :=
  ∀ l ∈ e.leaves, l.Indexed

def readPair (v : Variant) (room : Nat) (s : List Char) : Result (Expr × List Char) := do
  let s ← openOperands v s
  match room with
  | 0 => .error .malformed
  | room + 1 =>
    let (left, right, s) ← readOperands v (readJson room) s
    return (if v = .and then and left right else or left right, s)

def readNode (v : Variant) (room : Nat) (s : List Char) : Result (Expr × List Char) :=
  match v with
  | .constant => (readBool s).map fun (b, s) => (constant b, s)
  | .pattern => (Leaf.readJson room s).map fun (l, s) => (leaf l, s)
  | .not => (readJson room s).map fun (e, s) => (not e, s)
  | .and | .or => readPair v room s

lemma readPair_bind {β : Type} (v : Variant) (room : Nat) (s : List Char)
    (k : Expr × List Char → Result β) :
    readPair v room s >>= k = (do
      let s ← openOperands v s
      match room with
      | 0 => Except.error Problem.malformed >>= k
      | room + 1 =>
        let (left, right, s) ← readOperands v (readJson room) s
        k (if v = .and then and left right else or left right, s)) := by
  rw [readPair, bind_assoc]
  refine congrArg (Except.bind (openOperands v s)) (funext fun s => ?_)
  cases room with
  | zero => rfl
  | succ room => exact bind_assoc _ _ _

lemma readJson_object {s t : List Char} (h : skipBlanks s = '{' :: t) (room : Nat) :
    readJson (room + 1) s = (do
      let (name, s) ← readKey t
      let v ← variant Variant.choices name
      let s ← takeMark ':' s
      let (e, s) ← readNode v room s
      return (e, ← takeMark '}' s)) := by
  rw [readJson, h]
  refine congrArg (Except.bind (readKey t)) (funext fun x => ?_)
  refine congrArg (Except.bind (variant _ x.1)) (funext fun v => ?_)
  refine congrArg (Except.bind (takeMark ':' x.2)) (funext fun s => ?_)
  -- The definition takes the closing brace in each branch, and here it is taken behind all of them.
  cases v with
  | constant => rfl
  | pattern => rfl
  | not => rfl
  | and => exact (readPair_bind .and room s _).symm
  | or => exact (readPair_bind .or room s _).symm

lemma reads_node {v : Variant} {name value : String} {depth : Nat}
    (hv : variant Variant.choices name = .ok v)
    (hr : ∀ room, Reads (readNode v room) value (within depth room e)) (room : Nat) :
    Reads (readJson room) (writeObject [(name, value)]) (within (1 + depth) room e) := by
  refine ⟨⟨'{', _, toList_writeObject _ _ _, rfl, by decide⟩, fun rest _ => ?_⟩
  have hw : (writeObject [(name, value)]).toList ++ rest =
      '{' :: ((writeString name).toList ++ ':' :: (value.toList ++ '}' :: rest)) := by
    simp [toList_writeObject]
  rw [hw]
  cases room with
  | zero =>
    rw [within_zero (by omega)]
    rfl
  | succ room =>
    rw [within_add, readJson_object (skipBlanks_cons rfl), readKey_written]
    change (variant _ _ >>= _) = _
    rw [hv]
    change (readNode _ _ _ >>= _) = _
    rw [(hr room).reads _ (endsNumber_cons (by decide))]
    cases within depth room e with
    | error err => rfl
    | ok e => rfl

lemma reads_pair (v : Variant) {l r : Expr}
    (hl : ∀ room, Reads (readJson room) l.toJson (within l.nesting room l))
    (hr : ∀ room, Reads (readJson room) r.toJson (within r.nesting room r)) (room : Nat) :
    Reads (readPair v room) (writeList id [l.toJson, r.toJson])
      (within (1 + max l.nesting r.nesting) room (if v = .and then and l r else or l r)) := by
  have hw : (writeList id [l.toJson, r.toJson]).toList =
      '[' :: (l.toJson.toList ++ ',' :: (r.toJson.toList ++ [']'])) := by
    simp [writeList]
  refine ⟨⟨'[', _, hw, rfl, by decide⟩, fun rest _ => ?_⟩
  rw [hw]
  simp only [List.cons_append, List.append_assoc, List.nil_append]
  cases room with
  | zero =>
    rw [within_zero (by omega)]
    rfl
  | succ room =>
    have hb : ((within l.nesting room l).bind fun l => (within r.nesting room r).map fun r =>
        if v = .and then and l r else or l r) =
        within (max l.nesting r.nesting) room (if v = .and then and l r else or l r) :=
      within_bind_within fun l r => if v = .and then and l r else or l r
    rw [within_add, ← hb]
    change (readOperands v (readJson room) _ >>= _) = _
    rw [readOperands, (hl room).element_first, (hl room).reads _ (endsNumber_cons (by decide))]
    cases within l.nesting room l with
    | error err => rfl
    | ok l =>
      change ((element _ _ _ _ >>= _) >>= _) = _
      rw [(hr room).element, (hr room).reads _ (endsNumber_cons (by decide))]
      cases within r.nesting room r with
      | error err => rfl
      | ok r => rfl

lemma reads_toJson (h : e.Indexed) (room : Nat) :
    Reads (readJson room) e.toJson (within e.nesting room e) := by
  induction e generalizing room with
  | constant b =>
    have hb : ∀ room, Reads (readNode .constant room) (writeBool b) (within 0 room (constant b)) :=
      fun room => (reads_bool b).map constant
    exact reads_node rfl hb room
  | leaf l =>
    have hl : ∀ room, Reads (Leaf.readJson room) l.toJson (within l.nesting room l) :=
      Leaf.reads_toJson (h l (by simp [leaves]))
    refine reads_node (v := .pattern) rfl (fun room => ?_) room
    rw [← map_within]
    exact (hl room).map leaf
  | not e ih =>
    refine reads_node (v := .not) rfl (fun room => ?_) room
    rw [← map_within]
    exact (ih h room).map not
  | and l r ihl ihr =>
    have hl : l.Indexed := fun x hx => h x (List.mem_append_left _ hx)
    have hr : r.Indexed := fun x hx => h x (List.mem_append_right _ hx)
    have hp : ∀ room, Reads (readNode .and room) (writeList id [l.toJson, r.toJson])
        (within (1 + max l.nesting r.nesting) room (and l r)) := reads_pair .and (ihl hl) (ihr hr)
    rw [nesting, show 2 = 1 + 1 from rfl, Nat.add_assoc]
    exact reads_node rfl hp room
  | or l r ihl ihr =>
    have hl : l.Indexed := fun x hx => h x (List.mem_append_left _ hx)
    have hr : r.Indexed := fun x hx => h x (List.mem_append_right _ hx)
    have hp : ∀ room, Reads (readNode .or room) (writeList id [l.toJson, r.toJson])
        (within (1 + max l.nesting r.nesting) room (or l r)) := reads_pair .or (ihl hl) (ihr hr)
    rw [nesting, show 2 = 1 + 1 from rfl, Nat.add_assoc]
    exact reads_node rfl hp room

lemma bareVariant_gives {P : Expr × List Char → Prop} (s : List Char) : Gives (bareVariant s) P := by
  rw [bareVariant]
  refine (gives_any _).bind fun ⟨name, s⟩ _ => ?_
  exact (gives_any _).bind fun v _ => gives_error _

lemma readJson_gives {room : Nat} {s : List Char} {P : Expr × List Char → Prop}
    (h : ∀ n t, room = n + 1 → skipBlanks s = '{' :: t → Gives (readJson room s) P) :
    Gives (readJson room s) P := by
  by_cases ho : ∃ n t, room = n + 1 ∧ skipBlanks s = '{' :: t
  · obtain ⟨n, t, hn, ht⟩ := ho
    exact h n t hn ht
  · rw [readJson.eq_def]
    split
    · split
      · exact gives_error _
      · exact bareVariant_gives _
      · exact gives_error _
    · split
      · exact gives_error _
      · exact bareVariant_gives _
      · exact absurd ⟨_, _, rfl, ‹_›⟩ ho
      · exact gives_error _

lemma readPair_yields {room : Nat} (ih : ∀ n ≤ room, Yields (readJson n) fun e => e.nesting ≤ n ∧ e.Indexed)
    (v : Variant) : Yields (readPair v room) fun e => e.nesting ≤ room + 1 ∧ e.Indexed := by
  intro s
  rw [readPair]
  refine (gives_any _).bind fun s _ => ?_
  cases room with
  | zero => exact gives_error _
  | succ room =>
    have ho : Gives (readOperands v (readJson room) s) fun x =>
        (x.1.nesting ≤ room ∧ x.1.Indexed) ∧ x.2.1.nesting ≤ room ∧ x.2.1.Indexed := by
      have ih := ih room room.le_succ
      rw [readOperands]
      refine (element_yields ih _ _ _).bind fun ⟨l, s⟩ hl => ?_
      refine (element_yields ih _ _ _).bind fun ⟨r, s⟩ hr => ?_
      refine (gives_any _).bind fun s _ => ?_
      exact gives_ok ⟨hl, hr⟩
    refine ho.bind fun ⟨l, r, s⟩ ⟨hl, hr⟩ => gives_ok ?_
    have hn : 2 + max l.nesting r.nesting ≤ room + 1 + 1 := by
      have hm : max l.nesting r.nesting ≤ room := max_le hl.1 hr.1
      omega
    have hi : ∀ x ∈ l.leaves ++ r.leaves, x.Indexed := fun x hx =>
      (List.mem_append.mp hx).elim (hl.2 x) (hr.2 x)
    split
    · exact ⟨hn, hi⟩
    · exact ⟨hn, hi⟩

lemma readNode_yields {room : Nat} (ih : ∀ n ≤ room, Yields (readJson n) fun e => e.nesting ≤ n ∧ e.Indexed)
    (v : Variant) : Yields (readNode v room) fun e => e.nesting ≤ room + 1 ∧ e.Indexed := by
  intro s
  cases v with
  | constant => exact ((gives_any _).imp fun x _ => ⟨by simp [nesting], by simp [Indexed, leaves]⟩).map
  | pattern =>
    refine ((Leaf.readJson_yields room s).imp fun x hx => ⟨?_, ?_⟩).map
    · rw [nesting]
      omega
    · exact fun l hl => List.mem_singleton.mp hl ▸ hx.2
  | not =>
    refine ((ih room le_rfl s).imp fun x hx => ⟨?_, hx.2⟩).map
    rw [nesting]
    omega
  | and => exact readPair_yields ih .and s
  | or => exact readPair_yields ih .or s

lemma readJson_yields (room : Nat) : Yields (readJson room) fun e => e.nesting ≤ room ∧ e.Indexed := by
  induction room using Nat.strongRecOn with
  | ind room ih =>
    refine fun s => readJson_gives fun n t hn ht => ?_
    subst hn
    rw [readJson_object ht]
    refine (gives_any _).bind fun ⟨name, s⟩ _ => ?_
    refine (gives_any _).bind fun v _ => ?_
    refine (gives_any _).bind fun s _ => ?_
    refine (readNode_yields (fun m hm => ih m (by omega)) v s).bind fun ⟨e, s⟩ he => ?_
    refine (gives_any _).bind fun s _ => ?_
    exact gives_ok he

theorem json_round_trip (e : Expr) :
    (e.Indexed →
      (e.nesting ≤ 127 → readAll readJson e.toJson = .ok e) ∧
      (127 < e.nesting → ∃ p, readAll readJson e.toJson = .error p ∧ p.category = "syntax")) ∧
    ∀ text, readAll readJson text = .ok e → readAll readJson e.toJson = .ok e := by
  have hw : e.Indexed → readAll readJson e.toJson = within e.nesting 127 e := fun h =>
    readAll_of_reads (reads_toJson h 127)
  refine ⟨fun h => ⟨fun hn => ?_, fun hn => ?_⟩, fun text ht => ?_⟩
  · rw [hw h, within, if_pos hn]
  · refine ⟨.malformed, ?_, rfl⟩
    rw [hw h, within, if_neg (by omega)]
  · obtain ⟨hn, hi⟩ := readAll_gives (readJson_yields 127) text e ht
    rw [hw hi, within, if_pos hn]

lemma nesting_repeat_not (n : Nat) (e : Expr) : (Nat.repeat not n e).nesting = n + e.nesting := by
  induction n with
  | zero => simp [Nat.repeat]
  | succ n ih =>
    rw [Nat.repeat, nesting, ih]
    omega

set_option maxRecDepth 2000 in
theorem json_round_trip_other_form :
    let text := "\x7b\"Pattern\":\x7b\"x\":[],\"bindings\":[[\"A\",18446744073709551615]],\"initialized\":true," ++
      "\"namespace\":\x7b\"path\":null\x7d,\"pattern\":\"\\u00b5\"\x7d\x7d"
    let tree := leaf ⟨"µ", .path, [⟨"A", 18446744073709551615⟩], true⟩
    let deep := Nat.repeat not 127 (constant true)
    readAll readJson text = .ok tree ∧ readAll readJson tree.toJson = .ok tree ∧
      readAll readJson (not tree).toJson = .ok (not tree) ∧
      ∃ p, readAll readJson deep.toJson = .error p ∧ p.category = "syntax" := by
  intro text tree deep
  have ht : readAll readJson text = .ok tree := by
    subst text tree
    cbv
  have hi : (not tree).Indexed := by
    simp [tree, Indexed, leaves, Leaf.Indexed, UInt64.size]
  have hd : deep.Indexed := fun l hl => absurd hl List.not_mem_nil
  have hn : 127 < deep.nesting := by
    rw [nesting_repeat_not, nesting]
    decide
  exact ⟨ht, (json_round_trip tree).2 text ht, ((json_round_trip (not tree)).1 hi).1 (by decide),
    ((json_round_trip deep).1 hd).2 hn⟩

end Expr

end TriggerLogic
