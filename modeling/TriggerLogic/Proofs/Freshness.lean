import TriggerLogic.Proofs.Calls

/-! Filters that share a table. A host acknowledges new names once every filter has been configured
since they came, and so no filter goes on with bindings to names of an earlier run. -/

namespace TriggerLogic

structure Host where
  table : Table
  filters : List Filter

namespace Host

inductive Event where
  | table (op : Table.Op)
  | build (config : FilterConfig)
  | configure (i : Nat)
deriving DecidableEq

namespace Event

def renames : Event → Bool
  | table op => op.renames
  | _ => false

end Event

def sinceNames (past : List Event) : List Event :=
  past.takeWhile fun event => !event.renames

variable {h : Host} {past : List Event} {event : Event} {f : Filter} {i : Nat}

lemma sinceNames_cons (hn : event.renames = false) : sinceNames (event :: past) = event :: sinceNames past := by
  simp [sinceNames, hn]

lemma sinceNames_cons_renames (hn : event.renames = true) : sinceNames (event :: past) = [] := by
  simp [sinceNames, hn]

lemma sinceNames_append {after : List Event} (hn : ∀ event ∈ after, event.renames = false) :
    sinceNames (after ++ past) = after ++ sinceNames past :=
  List.takeWhile_append_of_pos (by simpa using hn)

section

variable [RegexLibrary]

def step (h : Host) : Event → Host
  | .table op => { h with table := op.apply h.table }
  | .build config =>
    match Filter.ofConfig config with
    | .ok f => { h with filters := h.filters ++ [f] }
    | .error _ => h
  | .configure i => { h with filters := h.filters.modify i fun f => (f.configure h.table.context).1 }

def run (policy : Policy) : List Event → Host
  | [] => ⟨.empty policy, []⟩
  | event :: past => (run policy past).step event

/-- Names are acknowledged only when every filter has been configured since they came. -/
def Obeys (policy : Policy) : List Event → Prop
  | [] => True
  | event :: past =>
    (event = .table .acknowledge →
      ∀ i < (run policy past).filters.length, .configure i ∈ sinceNames past) ∧ Obeys policy past

structure Fresh (past : List Event) (h : Host) : Prop where
  boundTo : ∀ i f, h.filters[i]? = some f → f.configured = true → .configure i ∈ sinceNames past →
    Condition.BoundTo h.table.context f.conditions
  configured : ∀ i f, h.filters[i]? = some f → f.configured = true → h.table.updated = false →
    .configure i ∈ sinceNames past

lemma getElem?_step (he : event ≠ .configure i) (hf : h.filters[i]? = some f) :
    (h.step event).filters[i]? = some f := by
  cases event with
  | table op => exact hf
  | build config =>
    simp only [step]
    split
    · exact List.getElem?_append_left (List.getElem?_eq_some_iff.mp hf).1 ▸ hf
    · exact hf
  | configure j =>
    have hne : j ≠ i := fun hj => he (congrArg Event.configure hj)
    simp [step, hne, hf]

lemma getElem?_step_configure (hf : h.filters[i]? = some f) :
    (h.step (.configure i)).filters[i]? = some (f.configure h.table.context).1 := by
  simp [step, hf]

lemma getElem?_step_cases (hf : (h.step event).filters[i]? = some f) :
    event ≠ .configure i ∧ h.filters[i]? = some f ∨ f.configured = false ∨
      event = .configure i ∧ ∃ g, h.filters[i]? = some g ∧ f = (g.configure h.table.context).1 := by
  by_cases he : event = .configure i
  · subst he
    cases hg : h.filters[i]? with
    | none => simp [step, hg] at hf
    | some g =>
      rw [getElem?_step_configure hg] at hf
      exact .inr (.inr ⟨rfl, g, rfl, (Option.some.inj hf).symm⟩)
  · cases hg : h.filters[i]? with
    | some g =>
      rw [getElem?_step he hg] at hf
      exact .inl ⟨he, hf⟩
    | none =>
      cases event with
      | table op => simp [step, hg] at hf
      | configure j => simp [step, List.getElem?_modify, hg] at hf
      | build config =>
        simp only [step] at hf
        split at hf
        · rename_i g hc
          rw [List.getElem?_append_right (List.getElem?_eq_none_iff.mp hg)] at hf
          obtain rfl : f = g := by simpa using List.mem_of_getElem? hf
          exact .inr (.inl (Filter.configured_of_ofConfig hc))
        · simp [hg] at hf

lemma step_sameNames (hn : event.renames = false) : h.table.SameNames (h.step event).table := by
  cases event with
  | table op => exact Table.Op.apply_sameNames hn
  | build config =>
    simp only [step]
    split <;> exact fun _ => ⟨rfl, rfl⟩
  | configure j => exact fun _ => ⟨rfl, rfl⟩

lemma updated_of_step (hu : (h.step event).table.updated = false) :
    event.renames = false ∧ (h.table.updated = false ∨ event = .table .acknowledge) := by
  cases event with
  | table op =>
    obtain ⟨hn, hu | rfl⟩ := Table.Op.updated_of_apply hu
    · exact ⟨hn, .inl hu⟩
    · exact ⟨hn, .inr rfl⟩
  | build config =>
    simp only [step] at hu
    split at hu <;> exact ⟨rfl, .inl hu⟩
  | configure j => exact ⟨rfl, .inl hu⟩

lemma step_fresh (hf : Fresh past h)
    (ha : event = .table .acknowledge → ∀ i < h.filters.length, .configure i ∈ sinceNames past) :
    Fresh (event :: past) (h.step event) := by
  by_cases hn : event.renames = false
  · constructor
    · intro i f hfi hc hm
      rw [sinceNames_cons hn] at hm
      obtain ⟨he, hold⟩ | hnew | ⟨rfl, g, hg, rfl⟩ := getElem?_step_cases hfi
      · have hm' := (List.mem_cons.mp hm).resolve_left (Ne.symm he)
        exact (hf.boundTo i f hold hc hm').sameNames (Table.SameNames.context (step_sameNames hn))
      · simp [hnew] at hc
      · by_cases hs : g.configured = true ∧ h.table.updated = false
        -- A call that does nothing is right because the names were acknowledged behind a binding.
        · rw [Filter.configure_of_skip hs.1 hs.2]
          exact hf.boundTo i g hg hs.1 (hf.configured i g hg hs.1 hs.2)
        · exact Filter.configure_boundTo hs hc
    · intro i f hfi hc hu
      rw [sinceNames_cons hn]
      obtain ⟨he, hold⟩ | hnew | ⟨rfl, -⟩ := getElem?_step_cases hfi
      · obtain ⟨-, hu | hack⟩ := updated_of_step hu
        · exact List.mem_cons_of_mem _ (hf.configured i f hold hc hu)
        · exact List.mem_cons_of_mem _ (ha hack i (List.getElem?_eq_some_iff.mp hold).1)
      · simp [hnew] at hc
      · exact List.mem_cons_self
  · constructor
    · intro i f _ _ hm
      rw [sinceNames_cons_renames (by simpa using hn)] at hm
      cases hm
    · intro i f _ _ hu
      exact absurd (updated_of_step hu).1 hn

lemma run_fresh {policy : Policy} (ho : Obeys policy past) : Fresh past (run policy past) := by
  induction past with
  | nil => constructor <;> simp [run]
  | cons event past ih => exact step_fresh (ih ho.2) ho.1

lemma getElem?_run_append {policy : Policy} {after : List Event} (hn : .configure i ∉ after)
    (hf : (run policy past).filters[i]? = some f) :
    (run policy (after ++ past)).filters[i]? = some f := by
  induction after with
  | nil => exact hf
  | cons event after ih =>
    rw [List.mem_cons, not_or] at hn
    exact getElem?_step (Ne.symm hn.1) (ih hn.2)

theorem boundTo_or_updated {policy : Policy} {past : List Event} (ho : Obeys policy past) :
    (∀ f ∈ (run policy past).filters, f.configured = true →
      Condition.BoundTo (run policy past).table.context f.conditions ∨
        (run policy past).table.updated = true) ∧
    ∀ i before after f, past = after ++ .configure i :: before → .configure i ∉ after →
      (run policy before).filters[i]? = some f → ∃ f', (run policy past).filters[i]? = some f' ∧
        (∀ notices, (f.configure (run policy before).table.context).2 = .ok notices →
          (∀ event ∈ after, event.renames = false) →
            Condition.BoundTo (run policy past).table.context f'.conditions) ∧
        ∀ e, (f.configure (run policy before).table.context).2 = .error e →
          ∀ ctx, f'.accept ctx = false := by
  have hf := run_fresh ho
  constructor
  · intro f hm hc
    obtain ⟨i, hi⟩ := List.mem_iff_getElem?.mp hm
    cases hu : (run policy past).table.updated with
    | true => exact .inr rfl
    | false => exact .inl (hf.boundTo i f hi hc (hf.configured i f hi hc hu))
  · rintro i before after f rfl hn hi
    have hi' : (run policy (after ++ .configure i :: before)).filters[i]? =
        some (f.configure (run policy before).table.context).1 :=
      getElem?_run_append hn (getElem?_step_configure hi)
    refine ⟨_, hi', ?_, ?_⟩
    · intro notices hok hr
      refine hf.boundTo i _ hi' ?_ ?_
      · rw [Filter.configure_configured, hok]
        rfl
      · rw [sinceNames_append hr, sinceNames_cons rfl]
        simp
    · intro e herr ctx
      have hc : (f.configure (run policy before).table.context).1.configured = false := by
        rw [Filter.configure_configured, herr]
        rfl
      simp [Filter.accept, Filter.judge, hc]

end

theorem boundTo_or_updated_acknowledged :
    Obeys .strict [.table .acknowledge, .configure 1, .configure 0, .table (.setNames .path ["B"]),
      .build { conditions := ["B"] }, .build { conditions := ["A"] }] ∧
    ∃ f f', (run .strict [.table .acknowledge, .configure 1, .configure 0, .table (.setNames .path ["B"]),
        .build { conditions := ["B"] }, .build { conditions := ["A"] }]).filters = [f, f'] ∧
      (∀ ctx, f.accept ctx = false) ∧
      Condition.BoundTo (run .strict [.table .acknowledge, .configure 1, .configure 0,
        .table (.setNames .path ["B"]), .build { conditions := ["B"] },
        .build { conditions := ["A"] }]).table.context f'.conditions := by
  have ha : Filter.ofConfig { conditions := ["A"] } =
      .ok ⟨{ conditions := ["A"] }, [⟨"A", .leaf (.ofName "A")⟩], false⟩ := by cbv
  have hb : Filter.ofConfig { conditions := ["B"] } =
      .ok ⟨{ conditions := ["B"] }, [⟨"B", .leaf (.ofName "B")⟩], false⟩ := by cbv
  have hr : run .strict [.table (.setNames .path ["B"]), .build { conditions := ["B"] },
      .build { conditions := ["A"] }] =
        ⟨(Table.empty .strict).setNames .path ["B"],
          [⟨{ conditions := ["A"] }, [⟨"A", .leaf (.ofName "A")⟩], false⟩,
            ⟨{ conditions := ["B"] }, [⟨"B", .leaf (.ofName "B")⟩], false⟩]⟩ := by
    simp only [run, step, ha, hb]
    rfl
  have hl : (run .strict [.configure 1, .configure 0, .table (.setNames .path ["B"]),
      .build { conditions := ["B"] }, .build { conditions := ["A"] }]).filters.length = 2 := by
    rw [run, run, hr]
    rfl
  have ho : Obeys .strict [.table .acknowledge, .configure 1, .configure 0,
      .table (.setNames .path ["B"]), .build { conditions := ["B"] }, .build { conditions := ["A"] }] := by
    simp only [Obeys, reduceCtorEq, false_imp_iff, and_true, Event.table.injEq, true_imp_iff]
    intro i hi
    rw [hl] at hi
    obtain rfl | rfl : i = 0 ∨ i = 1 := by omega
    · decide
    · decide
  obtain ⟨-, hlast⟩ := boundTo_or_updated ho
  obtain ⟨f, hf, -, herr⟩ := hlast 0 [.table (.setNames .path ["B"]), .build { conditions := ["B"] },
    .build { conditions := ["A"] }] [.table .acknowledge, .configure 1] _ rfl (by decide)
    (by rw [hr]; rfl)
  obtain ⟨f', hf', hok, -⟩ := hlast 1 [.configure 0, .table (.setNames .path ["B"]),
    .build { conditions := ["B"] }, .build { conditions := ["A"] }] [.table .acknowledge] _ rfl (by decide)
    (by rw [run, hr]; rfl)
  obtain ⟨a, b, hab⟩ := List.length_eq_two.mp hl
  obtain rfl : a = f := Option.some.inj ((congrArg (fun fs => fs[0]?) hab).symm.trans hf)
  obtain rfl : b = f' := Option.some.inj ((congrArg (fun fs => fs[1]?) hab).symm.trans hf')
  refine ⟨ho, a, b, hab, ?_, ?_⟩
  · exact herr (.unresolved ⟨"A", .path, .notFound, ["B"]⟩) (by rw [hr]; rfl)
  · exact hok [] (by rw [run, hr]; rfl) (by decide)

end Host

end TriggerLogic
