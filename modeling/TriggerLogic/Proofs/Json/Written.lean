import Mathlib.Data.List.TakeWhile
import Mathlib.Data.Nat.Basic
import Mathlib.Tactic.ByContra
import Mathlib.Tactic.Lemma
import TriggerLogic.Json.Expr

namespace TriggerLogic.Json

section Strings

variable {c : Char} {cs rest : List Char} {text : String}

lemma hexDigit?_digitChar : ∀ n < 16, hexDigit? (Nat.digitChar n) = some n := by
  decide

lemma hexValue_digitChar {n : Nat} (h : n < 256) :
    hexValue ['0', '0', Nat.digitChar (n / 16), Nat.digitChar (n % 16)] = some n := by
  have hh : hexDigit? (Nat.digitChar (n / 16)) = some (n / 16) := hexDigit?_digitChar _ (by omega)
  have hl : hexDigit? (Nat.digitChar (n % 16)) = some (n % 16) := hexDigit?_digitChar _ (by omega)
  have h0 : hexDigit? '0' = some 0 := rfl
  simp only [hexValue, List.foldlM_cons, List.foldlM_nil, h0, hh, hl, Option.map_some,
    Option.bind_eq_bind, Option.bind_some, Option.pure_def]
  congr 1
  omega

lemma unicodeEscape_control (h : isControl c) :
    unicodeEscape ('0' :: '0' :: Nat.digitChar (c.toNat / 16) :: Nat.digitChar (c.toNat % 16) :: rest) =
      .ok (c, rest) := by
  have hc : c.toNat < 0x20 := of_decide_eq_true h
  have ht : isTrailing c.toNat = false := by
    simp only [isTrailing, Bool.and_eq_false_iff, decide_eq_false_iff_not]
    omega
  have hl : isLeading c.toNat = false := by
    simp only [isLeading, Bool.and_eq_false_iff, decide_eq_false_iff_not]
    omega
  rw [unicodeEscape, hexEscape, hexValue_digitChar (by omega)]
  simp [ht, hl, Char.ofNat_toNat]

lemma escape_letter {letter : Char} (h : (letter, c) ∈ letterEscapes) :
    escape (letter :: rest) = .ok (c, rest) := by
  simp only [letterEscapes, List.mem_cons, List.not_mem_nil, Prod.mk.injEq, or_false] at h
  obtain ⟨rfl, rfl⟩ | ⟨rfl, rfl⟩ | ⟨rfl, rfl⟩ | ⟨rfl, rfl⟩ | ⟨rfl, rfl⟩ | ⟨rfl, rfl⟩ | ⟨rfl, rfl⟩ := h
  all_goals rfl

lemma stringBody_escape (h : escape cs = .ok (c, rest)) :
    stringBody ('\\' :: cs) = (stringBody rest).map fun (cs, rest) => (c :: cs, rest) := by
  rw [stringBody]
  split
  · simp_all
  · simp_all

lemma stringBody_writeChar :
    stringBody (writeChar c ++ rest) = (stringBody rest).map fun (cs, rest) => (c :: cs, rest) := by
  unfold writeChar
  split
  · rename_i letter d hf
    have hd : d = c := by simpa using List.find?_some hf
    subst hd
    exact stringBody_escape (escape_letter (List.mem_of_find?_eq_some hf))
  · rename_i hf
    split
    · exact stringBody_escape (unicodeEscape_control ‹_›)
    · rename_i hc
      have hq : c ≠ '"' := by
        rintro rfl
        simp [letterEscapes] at hf
      have hb : c ≠ '\\' := by
        rintro rfl
        simp [letterEscapes] at hf
      rw [List.singleton_append, stringBody]
      · simp [hc]
      · exact hq
      · exact hb

lemma stringBody_written : stringBody (cs.flatMap writeChar ++ '"' :: rest) = .ok (cs, rest) := by
  induction cs with
  | nil => simp [stringBody]
  | cons c cs ih =>
    rw [List.flatMap_cons, List.append_assoc, stringBody_writeChar, ih]
    rfl

lemma toList_writeString : (writeString text).toList = '"' :: (text.toList.flatMap writeChar ++ ['"']) := by
  simp [writeString]

lemma readString_written : readString (text.toList.flatMap writeChar ++ '"' :: rest) = .ok (text, rest) := by
  rw [readString, stringBody_written]
  simp [Except.map]

end Strings

section Numbers

open Number

variable {n : Nat} {cs rest : List Char}

def EndsNumber (rest : List Char) : Prop :=
  ∀ c ∈ rest.head?, c.isDigit = false ∧ c ∉ ['.', 'e', 'E']

lemma endsNumber_nil : EndsNumber [] := by
  simp [EndsNumber]

lemma endsNumber_cons {c : Char} (h : c ∈ [',', ']', '}']) : EndsNumber (c :: rest) := by
  simp only [List.mem_cons, List.not_mem_nil, or_false] at h
  simp only [EndsNumber, List.head?_cons, Option.mem_some_iff]
  rintro _ rfl
  obtain rfl | rfl | rfl := h
  all_goals decide

lemma digits_append (hd : ∀ c ∈ cs, c.isDigit) (hr : ∀ c ∈ rest.head?, c.isDigit = false) :
    digits (cs ++ rest) = cs ∧ afterDigits (cs ++ rest) = rest := by
  have hs : rest.takeWhile Char.isDigit = [] ∧ rest.dropWhile Char.isDigit = rest := by
    cases rest with
    | nil => exact ⟨rfl, rfl⟩
    | cons c rest =>
      have hc : c.isDigit = false := hr c rfl
      simp [hc]
  rw [digits, afterDigits, List.takeWhile_append_of_pos hd, List.dropWhile_append_of_pos hd, hs.1, hs.2]
  simp

lemma le_ofDigitChars (m : Nat) (cs : List Char) : m ≤ Nat.ofDigitChars 10 cs m := by
  induction cs generalizing m with
  | nil => rfl
  | cons c cs ih =>
    rw [Nat.ofDigitChars_cons]
    exact le_trans (by omega) (ih _)

lemma appendDigits_of_le {m : Nat} (h : Nat.ofDigitChars 10 cs m ≤ maxSignificand) :
    appendDigits m cs = (Nat.ofDigitChars 10 cs m, 0) := by
  induction cs generalizing m with
  | nil => rfl
  | cons c cs ih =>
    rw [Nat.ofDigitChars_cons, Nat.mul_comm 10 m] at h ⊢
    rw [appendDigits, digitValue, if_pos (le_trans (le_ofDigitChars _ cs) h)]
    exact ih h

lemma head?_toDigits (h : 0 < n) : (Nat.toDigits 10 n).head? ≠ some '0' := by
  induction n using Nat.strongRecOn with
  | ind n ih =>
    rw [Nat.toDigits_eq_if (by decide)]
    split
    · have hc : n.digitChar.toNat ≠ '0'.toNat := by
        rw [Nat.toNat_digitChar_of_lt_ten ‹_›]
        simp
        omega
      intro he
      exact hc (congrArg Char.toNat (Option.some.inj he))
    · rw [List.head?_append, Option.or_of_isSome (by simp [Nat.toDigits_ne_nil])]
      exact ih _ (by omega) (by omega)

lemma readUnsigned_toDigits (h : n < UInt64.size) (hr : EndsNumber rest) :
    readUnsigned false (Nat.toDigits 10 n ++ rest) = .ok (.integer n, rest) := by
  have hd : ∀ c ∈ Nat.toDigits 10 n, c.isDigit := fun c hc =>
    Nat.isDigit_of_mem_toDigits (by decide) (by decide) hc
  obtain ⟨ht, ha⟩ := digits_append hd fun c hc => (hr c hc).1
  have he : (Nat.toDigits 10 n).isEmpty = false := List.isEmpty_eq_false_iff.mpr Nat.toDigits_ne_nil
  have hz : ¬((Nat.toDigits 10 n).head? = some '0' && 1 < (Nat.toDigits 10 n).length) := by
    rcases Nat.eq_zero_or_pos n with rfl | hn
    · simp
    · simp [head?_toDigits hn]
  have hv : Nat.ofDigitChars 10 (Nat.toDigits 10 n) 0 = n :=
    Nat.ofDigitChars_toDigits (by decide) (by decide)
  have hs : appendDigits 0 (Nat.toDigits 10 n) = (n, 0) := by
    rw [appendDigits_of_le, hv]
    rw [hv, maxSignificand]
    omega
  rw [readUnsigned, ht, ha, hs, he]
  simp only [hz]
  cases rest with
  | nil => simp [ofInteger]
  | cons c rest =>
    have hc : c ∉ ['.', 'e', 'E'] := (hr c rfl).2
    simp only [List.mem_cons, not_or] at hc
    simp [ofInteger, hc]

lemma isBlank_of_isDigit {c : Char} (h : c.isDigit) : isBlank c = false := by
  by_contra hb
  simp only [isBlank, Bool.not_eq_false, Bool.or_eq_true, decide_eq_true_eq] at hb
  obtain ((rfl | rfl) | rfl) | rfl := hb
  all_goals simp at h

lemma toDigits_eq_cons (n : Nat) : ∃ c cs, Nat.toDigits 10 n = c :: cs ∧ c.isDigit := by
  obtain ⟨c, cs, hc⟩ := List.exists_cons_of_ne_nil (Nat.toDigits_ne_nil (n := n) (b := 10))
  have hm : c ∈ Nat.toDigits 10 n := by simp [hc]
  exact ⟨c, cs, hc, Nat.isDigit_of_mem_toDigits (by decide) (by decide) hm⟩

lemma readIndex_toDigits (h : n < UInt64.size) (hr : EndsNumber rest) :
    readIndex (Nat.toDigits 10 n ++ rest) = .ok (n, rest) := by
  obtain ⟨c, cs, hc, hd⟩ := toDigits_eq_cons n
  have hb : isBlank c = false := isBlank_of_isDigit hd
  have hm : c ≠ '-' := by
    rintro rfl
    simp at hd
  have hn := readUnsigned_toDigits h hr
  rw [hc, List.cons_append] at hn ⊢
  rw [readIndex, skipBlanks, List.dropWhile_cons_of_neg (by simp [hb])]
  simp [hd, readNumber, hm, hn]

end Numbers

section Values

variable {α : Type} {read : Reader α} {text : String} {outcome : Result α} {rest : List Char}

lemma skipBlanks_cons {c : Char} {cs : List Char} (h : isBlank c = false) :
    skipBlanks (c :: cs) = c :: cs :=
  List.dropWhile_cons_of_neg (by simp [h])

structure Reads (read : Reader α) (text : String) (outcome : Result α) : Prop where
  starts : ∃ c cs, text.toList = c :: cs ∧ isBlank c = false ∧ c ≠ ']'
  reads : ∀ rest, EndsNumber rest → read (text.toList ++ rest) = outcome.map (·, rest)

lemma readAll_of_reads {read : Nat → Reader α} (h : Reads (read maxDepth) text outcome) :
    readAll read text = outcome := by
  have hr := h.reads [] endsNumber_nil
  rw [List.append_nil] at hr
  rw [readAll, hr]
  cases outcome with
  | error err => rfl
  | ok a => rfl

lemma Reads.map {β : Type} (h : Reads read text outcome) (f : α → β) :
    Reads (fun s => (read s).map fun (a, s) => (f a, s)) text (outcome.map f) := by
  refine ⟨h.starts, fun rest hr => ?_⟩
  rw [h.reads rest hr]
  cases outcome with
  | error err => rfl
  | ok a => rfl

lemma reads_text (expected text : String) : Reads (readText expected) (writeString text) (.ok text) := by
  refine ⟨⟨'"', _, toList_writeString, rfl, by decide⟩, fun rest _ => ?_⟩
  rw [toList_writeString, List.cons_append, List.append_assoc, readText, skipBlanks_cons rfl]
  exact readString_written

lemma reads_bool (b : Bool) : Reads readBool (writeBool b) (.ok b) := by
  cases b with
  | false => exact ⟨⟨'f', _, rfl, rfl, by decide⟩, fun rest _ => rfl⟩
  | true => exact ⟨⟨'t', _, rfl, rfl, by decide⟩, fun rest _ => rfl⟩

lemma reads_index {n : Nat} (h : n < UInt64.size) : Reads readIndex (toString n) (.ok n) := by
  have ht : (toString n).toList = Nat.toDigits 10 n := by
    rw [Nat.toString_eq_repr, Nat.repr_eq_ofList_toDigits, String.toList_ofList]
  obtain ⟨c, cs, hc, hd⟩ := toDigits_eq_cons n
  refine ⟨⟨c, cs, ht.trans hc, isBlank_of_isDigit hd, ?_⟩, fun rest hr => ?_⟩
  · rintro rfl
    simp at hd
  · rw [ht, readIndex_toDigits h hr]
    rfl

lemma reads_choice {known : List (String × α)} {a : α} (h : known.lookup text = some a) (room : Nat) :
    Reads (readChoice known room) (writeString text) (.ok a) := by
  refine ⟨⟨'"', _, toList_writeString, rfl, by decide⟩, fun rest _ => ?_⟩
  rw [toList_writeString, List.cons_append, List.append_assoc, readChoice.eq_def, skipBlanks_cons rfl]
  change (readString (text.toList.flatMap writeChar ++ '"' :: rest) >>= _) = _
  rw [readString_written]
  change (variant known text >>= _) = _
  rw [variant, h]
  rfl

end Values

section Lists

variable {α : Type} {read : Reader α} {write : α → String} {out : α → Result α} {text : String}
  {outcome : Result α} {as : List α} {rest : List Char}

lemma toList_intercalate_cons (text : String) (texts : List String) :
    (",".intercalate (text :: texts)).toList = text.toList ++ texts.flatMap fun t => ',' :: t.toList := by
  induction texts generalizing text with
  | nil => simp
  | cons t ts ih =>
    rw [String.intercalate_cons_cons, String.toList_append, String.toList_append, ih]
    simp

lemma Reads.nextElement_first (h : Reads read text outcome) :
    nextElement true (text.toList ++ rest) = .ok (some (text.toList ++ rest)) := by
  obtain ⟨c, cs, hc, hb, hn⟩ := h.starts
  rw [hc, List.cons_append, nextElement, skipBlanks_cons hb]
  simp

lemma Reads.nextElement (h : Reads read text outcome) :
    nextElement false (',' :: (text.toList ++ rest)) = .ok (some (text.toList ++ rest)) := by
  obtain ⟨c, cs, hc, hb, hn⟩ := h.starts
  rw [hc, List.cons_append, Json.nextElement, skipBlanks_cons rfl]
  simp [skipBlanks_cons hb, hn]

lemma Reads.element_first (h : Reads read text outcome) (expected : String) :
    element expected 0 read (text.toList ++ rest) = read (text.toList ++ rest) := by
  change (Json.nextElement true _ >>= _) = _
  rw [h.nextElement_first]
  rfl

lemma Reads.element (h : Reads read text outcome) (expected : String) (index : Nat) :
    element expected (index + 1) read (',' :: (text.toList ++ rest)) = read (text.toList ++ rest) := by
  change (Json.nextElement false _ >>= _) = _
  rw [h.nextElement]
  rfl

lemma elements_cons {first : Bool} {bound : Nat} {s tail : List Char} {a : α}
    (hs : Json.nextElement first s = .ok (some ((write a).toList ++ tail)))
    (ha : Reads read (write a) (out a)) (hr : EndsNumber tail)
    (ht : elements read bound false tail = (as.mapM out).map (·, rest)) :
    elements read (bound + 1) first s = ((a :: as).mapM out).map (·, rest) := by
  rw [elements, hs, List.mapM_cons]
  change (read _ >>= _) = _
  rw [ha.reads _ hr]
  cases out a with
  | error err => rfl
  | ok b =>
    change (elements read _ _ _ >>= _) = _
    rw [ht]
    cases as.mapM out with
    | error err => rfl
    | ok bs => rfl

lemma endsNumber_others :
    EndsNumber (as.flatMap (fun a => ',' :: (write a).toList) ++ ']' :: rest) := by
  cases as with
  | nil => exact endsNumber_cons (by decide)
  | cons a as => exact endsNumber_cons (by decide)

lemma length_le_others : as.length ≤ (as.flatMap fun a => ',' :: (write a).toList).length := by
  induction as with
  | nil => rfl
  | cons a as ih =>
    rw [List.flatMap_cons, List.length_append, List.length_cons, List.length_cons]
    omega

lemma elements_others (h : ∀ a ∈ as, Reads read (write a) (out a)) {bound : Nat} (hb : as.length < bound) :
    elements read bound false (as.flatMap (fun a => ',' :: (write a).toList) ++ ']' :: rest) =
      (as.mapM out).map (·, ']' :: rest) := by
  induction as generalizing bound with
  | nil =>
    obtain ⟨bound, rfl⟩ := Nat.exists_eq_add_of_lt hb
    rfl
  | cons a as ih =>
    obtain ⟨bound, rfl⟩ := Nat.exists_eq_add_of_lt hb
    have ha : Reads read (write a) (out a) := h a List.mem_cons_self
    have ht : ∀ a ∈ as, Reads read (write a) (out a) := fun a ha => h a (List.mem_cons_of_mem _ ha)
    rw [List.flatMap_cons, List.append_assoc, List.cons_append]
    exact elements_cons ha.nextElement ha endsNumber_others (ih ht (by simp; omega))

lemma reads_list_zero {read : Nat → Reader α} :
    Reads (readList read 0) (writeList write as) (.error .malformed) := by
  have hw : (writeList write as).toList = '[' :: ((",".intercalate (as.map write)).toList ++ [']']) := by
    simp [writeList]
  refine ⟨⟨'[', _, hw, rfl, by decide⟩, fun rest _ => ?_⟩
  rw [hw]
  rfl

lemma reads_list {read : Nat → Reader α} {room : Nat} (h : ∀ a ∈ as, Reads (read room) (write a) (out a)) :
    Reads (readList read (room + 1)) (writeList write as) (as.mapM out) := by
  have hw : (writeList write as).toList = '[' :: ((",".intercalate (as.map write)).toList ++ [']']) := by
    simp [writeList]
  refine ⟨⟨'[', _, hw, rfl, by decide⟩, fun rest _ => ?_⟩
  have he : elements (read room) (((",".intercalate (as.map write)).toList ++ ']' :: rest).length + 1) true
      ((",".intercalate (as.map write)).toList ++ ']' :: rest) = (as.mapM out).map (·, ']' :: rest) := by
    cases as with
    | nil => rfl
    | cons a as =>
      have ha : Reads (read room) (write a) (out a) := h a List.mem_cons_self
      have ht : ∀ a ∈ as, Reads (read room) (write a) (out a) := fun a ha => h a (List.mem_cons_of_mem _ ha)
      rw [List.map_cons, toList_intercalate_cons, List.append_assoc, List.flatMap_map]
      refine elements_cons ha.nextElement_first ha endsNumber_others (elements_others ht ?_)
      have hl : as.length ≤ (as.flatMap fun a => ',' :: (write a).toList).length := length_le_others
      simp only [List.length_append, List.length_cons]
      omega
  rw [hw, List.cons_append, List.append_assoc, readList.eq_def, skipBlanks_cons rfl]
  change (elements _ _ _ _ >>= _) = _
  rw [List.singleton_append, he]
  cases as.mapM out with
  | error err => rfl
  | ok bs => rfl

end Lists

section Nesting

variable {α β γ : Type} {a : α} {as : List α} {depth room : Nat}

/-- A value whose text opens `depth` containers in each other, where `room` may still be opened. -/
def within (depth room : Nat) (a : α) : Result α :=
  if depth ≤ room then .ok a else .error .malformed

lemma within_zero (h : 0 < depth) : within depth 0 a = .error .malformed :=
  if_neg (by omega)

lemma within_add (n : Nat) : within (n + depth) (room + n) a = within depth room a := by
  simp [within, Nat.add_comm n]

lemma map_within (f : α → β) : (within depth room a).map f = within depth room (f a) := by
  rw [within, within]
  split
  · rfl
  · rfl

lemma within_bind_within {b : β} {depth' : Nat} (f : α → β → γ) :
    ((within depth room a).bind fun a => (within depth' room b).map (f a)) =
      within (max depth depth') room (f a b) := by
  simp only [map_within]
  by_cases h : depth ≤ room
  · have hm : max depth depth' ≤ room ↔ depth' ≤ room := by
      rw [Nat.max_le, and_iff_right h]
    rw [within, if_pos h]
    change within depth' room _ = _
    simp only [within, hm]
  · have hm : ¬max depth depth' ≤ room := fun hm => h (Nat.max_le.mp hm).1
    rw [within, if_neg h, within, if_neg hm]
    rfl

lemma mapM_within : as.mapM (within depth room) = within (if as = [] then 0 else depth) room as := by
  cases as with
  | nil => simp [within, pure, Except.pure]
  | cons a as =>
    rw [if_neg (List.cons_ne_nil _ _), within]
    split
    · have hw : (within depth room : α → Result α) = fun a => .ok a := funext fun a => if_pos ‹_›
      rw [hw]
      exact List.mapM_pure.trans (congrArg Except.ok (List.map_id _))
    · rw [List.mapM_cons, within, if_neg ‹_›]
      rfl

lemma reads_list_within {read : Nat → Reader α} {write : α → String}
    (h : ∀ a ∈ as, ∀ room, Reads (read room) (write a) (within depth room a)) (room : Nat) :
    Reads (readList read room) (writeList write as) (within (1 + if as = [] then 0 else depth) room as) := by
  cases room with
  | zero =>
    rw [within_zero (by omega)]
    exact reads_list_zero
  | succ room =>
    rw [within_add, ← mapM_within]
    exact reads_list fun a ha => h a ha room

end Nesting

section Objects

variable {α σ : Type} {read : Reader α} {outcome : Result α} {member : String → σ → Reader σ}
  {key value text : String} {rest s : List Char}

lemma toList_writeObject (key value : String) (entries : List (String × String)) :
    (writeObject ((key, value) :: entries)).toList =
      '{' :: ((writeString key).toList ++ ':' :: (value.toList ++
        (entries.flatMap (fun entry => ',' :: ((writeString entry.1).toList ++ ':' :: entry.2.toList)) ++
          ['}']))) := by
  simp only [writeObject, List.map_cons, String.toList_append, toList_intercalate_cons, List.flatMap_map]
  simp

lemma members_cons {first : Bool} {bound : Nat} {state : σ} {s tail : List Char} (hb : 0 < bound)
    (hs : nextKey first s = .ok (.inl (key.toList.flatMap writeChar ++ '"' :: tail))) :
    members member bound first state s =
      (member key state tail).bind fun x => members member (bound - 1) false x.1 x.2 := by
  obtain ⟨bound, rfl⟩ := Nat.exists_eq_add_one.mpr hb
  rw [members, hs]
  change (readString _ >>= _) = _
  rw [readString_written]
  rfl

lemma members_first {bound : Nat} (hb : 0 < bound) (state : σ) :
    members member bound true state ((writeString key).toList ++ s) =
      (member key state s).bind fun x => members member (bound - 1) false x.1 x.2 := by
  rw [toList_writeString, List.cons_append, List.append_assoc, List.singleton_append]
  exact members_cons hb rfl

lemma members_next {bound : Nat} (hb : 0 < bound) (state : σ) :
    members member bound false state (',' :: ((writeString key).toList ++ s)) =
      (member key state s).bind fun x => members member (bound - 1) false x.1 x.2 := by
  rw [toList_writeString, List.cons_append, List.append_assoc, List.singleton_append]
  exact members_cons hb rfl

lemma members_last {bound : Nat} (hb : 0 < bound) (state : σ) :
    members member bound false state ('}' :: rest) = .ok (state, rest) := by
  obtain ⟨bound, rfl⟩ := Nat.exists_eq_add_one.mpr hb
  rfl

lemma field_written (h : Reads read text outcome) (hr : EndsNumber rest) :
    field key none read (':' :: (text.toList ++ rest)) = outcome.map fun a => (some a, rest) := by
  change (read _ >>= _) = _
  rw [h.reads _ hr]
  cases outcome with
  | error err => rfl
  | ok a => rfl

lemma field_next (h : Reads read text outcome) :
    field key none read (':' :: (text.toList ++ ',' :: rest)) = outcome.map fun a => (some a, ',' :: rest) :=
  field_written h (endsNumber_cons (by decide))

lemma field_last (h : Reads read text outcome) :
    field key none read (':' :: (text.toList ++ '}' :: rest)) = outcome.map fun a => (some a, '}' :: rest) :=
  field_written h (endsNumber_cons (by decide))

lemma readKey_written : readKey ((writeString key).toList ++ rest) = .ok (key, rest) := by
  rw [toList_writeString, List.cons_append, List.append_assoc, List.singleton_append]
  exact readString_written

end Objects

end TriggerLogic.Json
