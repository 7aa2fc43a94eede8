import Mathlib.Tactic.Lemma
import TriggerLogic.Json.Expr

namespace TriggerLogic.Json

variable {α β σ : Type} {P Q : α → Prop}

def Gives (x : Result α) (P : α → Prop) : Prop :=
  ∀ a, x = .ok a → P a

lemma gives_ok {a : α} (h : P a) : Gives (.ok a) P := by
  rintro _ ⟨⟩
  exact h

lemma gives_error (err : Problem) : Gives (.error err) P := by
  rintro _ ⟨⟩

lemma gives_any (x : Result α) : Gives x fun _ => True :=
  fun _ _ => trivial

lemma Gives.imp {x : Result α} (h : Gives x P) (hi : ∀ a, P a → Q a) : Gives x Q :=
  fun a ha => hi a (h a ha)

lemma Gives.bind {x : Result α} {f : α → Result β} {R : β → Prop} (h : Gives x P)
    (hf : ∀ a, P a → Gives (f a) R) : Gives (x >>= f) R := by
  intro b hb
  cases hx : x with
  | error err =>
    rw [hx] at hb
    cases hb
  | ok a =>
    rw [hx] at hb
    exact hf a (h a hx) b hb

lemma Gives.map {x : Result α} {f : α → β} {R : β → Prop} (h : Gives x fun a => R (f a)) :
    Gives (x.map f) R := by
  cases x with
  | error err => exact gives_error err
  | ok a => exact gives_ok (h a rfl)

def Yields (read : Reader α) (P : α → Prop) : Prop :=
  ∀ s, Gives (read s) fun x => P x.1

lemma Yields.imp {read : Reader α} (h : Yields read P) (hi : ∀ a, P a → Q a) : Yields read Q :=
  fun s => (h s).imp fun x => hi x.1

section Numbers

open Number

lemma appendDigits_le {m : Nat} {cs : List Char} (h : m ≤ maxSignificand) :
    (appendDigits m cs).1 ≤ maxSignificand := by
  induction cs generalizing m with
  | nil => exact h
  | cons c cs ih =>
    rw [appendDigits]
    split
    · exact ih ‹_›
    · exact h

def Number.Fits : Number → Prop
  | .integer (.ofNat n) => n < UInt64.size
  | _ => True

lemma ofInteger_fits {m : Nat} (negative : Bool) (h : m ≤ maxSignificand) : (ofInteger negative m).Fits := by
  have hs : maxSignificand < UInt64.size := by decide
  rw [ofInteger]
  split
  · exact Nat.lt_of_le_of_lt h hs
  · split
    · trivial
    · rename_i hm
      cases m with
      | zero => simp at hm
      | succ m => trivial

lemma readUnsigned_fits (negative : Bool) : Yields (readUnsigned negative) Number.Fits := by
  intro s
  simp only [readUnsigned]
  split
  · exact gives_error _
  · split
    · exact gives_error _
    · split
      · exact ((gives_any _).imp fun _ _ => trivial).map
      · exact ((gives_any _).imp fun _ _ => trivial).map
      · exact ((gives_any _).imp fun _ _ => trivial).map
      · split
        · exact gives_ok (ofInteger_fits negative (appendDigits_le (by decide)))
        · exact ((gives_any _).imp fun _ _ => trivial).map

lemma readNumber_fits : Yields readNumber Number.Fits := by
  intro s
  rw [readNumber.eq_def]
  split
  · exact readUnsigned_fits true _
  · exact readUnsigned_fits false _

lemma readIndex_lt : Yields readIndex (· < UInt64.size) := by
  intro s
  rw [readIndex]
  split
  · exact gives_error _
  · split
    · split
      · exact gives_error _
      · rename_i n _ hn
        have hf : Number.Fits (.integer (.ofNat n)) := readNumber_fits _ _ hn
        exact gives_ok hf
      · exact gives_error _
      · exact gives_error _
    · exact gives_error _

end Numbers

section Lists

variable {read : Reader α}

lemma elements_yields (h : Yields read P) (bound : Nat) (first : Bool) :
    Yields (elements read bound first) fun as => ∀ a ∈ as, P a := by
  induction bound generalizing first with
  | zero => exact fun s => gives_error _
  | succ bound ih =>
    intro s
    rw [elements]
    refine (gives_any _).bind fun next _ => ?_
    cases next with
    | none => exact gives_ok (by simp)
    | some s =>
      refine (h s).bind fun ⟨a, s⟩ ha => ?_
      refine (ih false s).bind fun ⟨as, s⟩ has => ?_
      exact gives_ok (List.forall_mem_cons.mpr ⟨ha, has⟩)

lemma readList_yields {read : Nat → Reader α} {room : Nat} (h : ∀ n, room = n + 1 → Yields (read n) P) :
    Yields (readList read room) fun as => 0 < room ∧ ∀ a ∈ as, P a := by
  intro s
  rw [readList.eq_def]
  split
  · exact gives_error _
  · refine (elements_yields (h _ rfl) _ _ _).bind fun ⟨as, s⟩ has => ?_
    refine (gives_any _).bind fun s _ => ?_
    exact gives_ok ⟨Nat.succ_pos _, has⟩
  · exact gives_error _

lemma element_yields (h : Yields read P) (expected : String) (index : Nat) :
    Yields (element expected index read) P := by
  intro s
  rw [element]
  refine (gives_any _).bind fun next _ => ?_
  cases next with
  | none => exact gives_error _
  | some s => exact h s

end Lists

section Objects

variable {read : Reader α} {member : String → σ → Reader σ} {Keeps : σ → Prop}

lemma members_yields (h : ∀ key state, Keeps state → Yields (member key state) Keeps) (bound : Nat)
    (first : Bool) {state : σ} (hs : Keeps state) : Yields (members member bound first state) Keeps := by
  induction bound generalizing first state with
  | zero => exact fun s => gives_error _
  | succ bound ih =>
    intro s
    rw [members]
    refine (gives_any _).bind fun next _ => ?_
    cases next with
    | inr s => exact gives_ok hs
    | inl s =>
      refine (gives_any _).bind fun ⟨key, s⟩ _ => ?_
      refine (h key state hs s).bind fun ⟨state, s⟩ hs => ?_
      exact ih false hs s

lemma field_yields (h : Yields read P) (name : String) (value : Option α) :
    Yields (field name value read) fun value => ∀ a ∈ value, P a := by
  intro s
  rw [field.eq_def]
  cases value with
  | some a => exact gives_error _
  | none =>
    refine (gives_any _).bind fun s _ => ?_
    refine (h s).bind fun ⟨a, s⟩ ha => ?_
    exact gives_ok fun _ h => Option.some.inj h ▸ ha

lemma ignored_yields (state : σ) : Yields (ignored state) (· = state) := by
  intro s
  rw [ignored]
  refine (gives_any _).bind fun s _ => ?_
  refine (gives_any _).bind fun s _ => ?_
  exact gives_ok rfl

lemma require_gives {value : Option α} (h : ∀ a ∈ value, P a) (name : String) :
    Gives (require name value) P := by
  cases value with
  | none => exact gives_error _
  | some a => exact gives_ok (h a rfl)

lemma readRecord_yields {name : String} {list object : Nat → Reader α} {room : Nat}
    (hl : ∀ n, room = n + 1 → Yields (list n) P) (ho : ∀ n, room = n + 1 → Yields (object n) P) :
    Yields (readRecord name list object room) P := by
  intro s
  rw [readRecord.eq_def]
  split
  · exact gives_error _
  · exact gives_error _
  · refine (hl _ rfl _).bind fun ⟨a, s⟩ ha => ?_
    refine (gives_any _).bind fun s _ => ?_
    exact gives_ok ha
  · exact ho _ rfl _
  · exact gives_error _

lemma readAll_gives {read : Nat → Reader α} (h : Yields (read maxDepth) P) (text : String) :
    Gives (readAll read text) P := by
  rw [readAll]
  refine (h _).bind fun x ha => ?_
  change Gives (if _ then _ else _) P
  split
  · exact gives_ok ha
  · exact gives_error _

end Objects

end TriggerLogic.Json
