import DocFilter.Proofs.Merge.Rule
import DocFilter.Proofs.Negation.Tiers

/-! The reading of operator fragments. A fragment is the conjunction of its entries; a `$not` entry
is the negation of the fragment under it, and any other entry is an atom. The atoms at each depth
of `$not` are a tier, and merging two fragments without a common operator lays their tiers over
each other. -/

namespace DocFilter

mutual

/-- A value that is not a document is no fragment and never holds. -/
def Value.reads (truth : String × Value → Bool) : Value → Bool
  | .document entries => readsEntries truth entries
  | _ => false

def readsEntries (truth : String × Value → Bool) : List (String × Value) → Bool
  | [] => true
  | (key, value) :: rest =>
    (if key = Keyword.not.text then !value.reads truth else truth (key, value)) &&
      readsEntries truth rest

end

mutual

/-- The atoms at each depth of `$not`. -/
def Value.tiers : Value → List (List (String × Value))
  | .document entries => entries.filter (·.1 ≠ Keyword.not.text) :: tiersBeneath entries
  | _ => []

def tiersBeneath : List (String × Value) → List (List (String × Value))
  | [] => []
  | (key, value) :: rest => if key = Keyword.not.text then value.tiers else tiersBeneath rest

end

namespace Document

def atoms (d : Document) : List (String × Value) := d.filter (·.1 ≠ Keyword.not.text)

def negated? (d : Document) : Option Value := get? d Keyword.not.text

/-- An operator fragment with an operator fragment under its `$not`, and so on down. -/
inductive Legible : Document → Prop where
  | intro (d : Document) (fragment : isOperatorFragment d = true)
      (kind : ∀ v, negated? d = some v → v.kind = .object)
      (beneath : ∀ e, negated? d = some (.document e) → Legible e) : Legible d

/-- No operator but `$not` occurs in both, at any depth of `$not`. -/
def Apart (d e : Document) : Prop :=
  ∀ a ∈ (Value.document d).tiers.flatten, ∀ b ∈ (Value.document e).tiers.flatten, a.1 ≠ b.1

theorem tiersBeneath_eq (d : Document) :
    tiersBeneath d = match negated? d with
      | some v => v.tiers
      | none => [] := by
  induction d with
  | nil => rfl
  | cons entry rest ih =>
    obtain ⟨key, value⟩ := entry
    rw [tiersBeneath, ih]
    by_cases h : key = Keyword.not.text
    · simp [negated?, get?, h]
    · simp [negated?, get?, h]

theorem tiers_of_some {d : Document} {v : Value} (h : negated? d = some v) :
    (Value.document d).tiers = atoms d :: v.tiers := by
  rw [Value.tiers, tiersBeneath_eq, h]
  rfl

theorem tiers_of_none {d : Document} (h : negated? d = none) :
    (Value.document d).tiers = [atoms d] := by
  rw [Value.tiers, tiersBeneath_eq, h]
  rfl

theorem reads_eq {d : Document} (hd : (keys d).Nodup) (truth : String × Value → Bool) :
    (Value.document d).reads truth =
      ((atoms d).all truth && match negated? d with
        | some v => !v.reads truth
        | none => true) := by
  rw [Value.reads]
  induction d with
  | nil => rfl
  | cons entry rest ih =>
    obtain ⟨key, value⟩ := entry
    obtain ⟨hkey, hrest⟩ := List.nodup_cons.1 hd
    rw [readsEntries, ih hrest]
    by_cases h : key = Keyword.not.text
    · have hn : negated? rest = none := (get?_eq_none_iff rest _).2 (h ▸ hkey)
      simp [atoms, negated?, get?, h] at hn ⊢
      simp [hn, Bool.and_comm]
    · simp [atoms, negated?, get?, h, Bool.and_assoc]

/-- A fragment reads as its tiers do. -/
theorem reads_eq_holds {d : Document} (hl : Legible d) (hd : (Value.document d).Distinct)
    (truth : String × Value → Bool) :
    (Value.document d).reads truth = Tiers.holds truth (Value.document d).tiers := by
  induction hl with
  | intro d _ hkind _ ih =>
    rw [reads_eq hd.keys]
    cases hn : negated? d with
    | none => simp [tiers_of_none hn, Tiers.holds]
    | some v =>
      obtain ⟨e, rfl⟩ := Value.eq_document_of_kind (hkind v hn)
      rw [tiers_of_some hn, Tiers.holds, ← ih e hn (hd.get? hn)]

theorem atoms_add_not (d : Document) (v : Value) : atoms (add d Keyword.not.text v) = atoms d :=
  without_add d Keyword.not.text v

theorem atoms_merge {d e : Document} (he : (keys e).Nodup)
    (h : ∀ k ∈ keys e, k ≠ Keyword.not.text → k ∉ keys d) :
    atoms (merge d e) = atoms d ++ atoms e := by
  induction e generalizing d with
  | nil => simp [atoms]
  | cons entry rest ih =>
    obtain ⟨key, value⟩ := entry
    obtain ⟨hkey, hrest⟩ := List.nodup_cons.1 he
    rw [merge_cons]
    by_cases hk : key = Keyword.not.text
    · subst hk
      rw [ih hrest, atoms_add_not]
      · simp [atoms]
      · intro k hkr hne
        have hkd := h k (by simp [hkr]) hne
        rw [keys_add]
        split_ifs <;> simp [hkd, hne]
    · have hkd : key ∉ keys d := h key (by simp) hk
      rw [add_of_not_mem d value hkd, ih hrest]
      · simp [atoms, hk]
      · intro k hkr hne
        have hkd := h k (by simp [hkr]) hne
        have hkk : k ≠ key := ne_of_mem_of_not_mem hkr hkey
        simp only [keys, List.map_append, List.mem_append, not_or]
        exact ⟨hkd, by simpa using hkk⟩

theorem mem_tiers_of_mem_atoms {d : Document} {a : String × Value} (h : a ∈ atoms d) :
    a ∈ (Value.document d).tiers.flatten := by
  rw [Value.tiers, List.flatten_cons]
  exact List.mem_append_left _ h

theorem mem_tiers_of_negated {d e : Document} (h : negated? d = some (.document e))
    {a : String × Value} (ha : a ∈ (Value.document e).tiers.flatten) :
    a ∈ (Value.document d).tiers.flatten := by
  rw [tiers_of_some h, List.flatten_cons]
  exact List.mem_append_right _ ha

theorem exists_atom_of_mem_keys {d : Document} {k : String} (h : k ∈ keys d)
    (hk : k ≠ Keyword.not.text) : ∃ a ∈ (Value.document d).tiers.flatten, a.1 = k := by
  obtain ⟨a, ha, rfl⟩ := List.mem_map.1 h
  exact ⟨a, mem_tiers_of_mem_atoms (List.mem_filter.2 ⟨ha, by simpa using hk⟩), rfl⟩

theorem Apart.not_mem_keys {d e : Document} (h : Apart d e) :
    ∀ k ∈ keys e, k ≠ Keyword.not.text → k ∉ keys d := by
  intro k hke hk hkd
  obtain ⟨a, ha, hak⟩ := exists_atom_of_mem_keys hkd hk
  obtain ⟨b, hb, hbk⟩ := exists_atom_of_mem_keys hke hk
  exact h a ha b hb (hak.trans hbk.symm)

/-- Merging two fragments without a common operator lays their tiers over each other. -/
theorem tiers_merge {d e : Document} (hd : Legible d) (he : Legible e)
    (hde : (Value.document e).Distinct) (h : Apart d e) :
    (Value.document (merge d e)).tiers =
      Tiers.overlay (Value.document d).tiers (Value.document e).tiers := by
  induction he generalizing d with
  | intro e _ hekind _ ih =>
    have hat := atoms_merge hde.keys h.not_mem_keys
    obtain ⟨_, _, hdkind, hdbeneath⟩ := hd
    cases hen : negated? e with
    | none =>
      have hm : negated? (merge d e) = negated? d := get?_merge_of_none d hde.keys hen
      rw [tiers_of_none hen]
      cases hdn : negated? d with
      | none => rw [tiers_of_none hdn, tiers_of_none (hm.trans hdn), hat]; rfl
      | some v => rw [tiers_of_some hdn, tiers_of_some (hm.trans hdn), hat, Tiers.overlay]; simp
    | some w =>
      obtain ⟨e', rfl⟩ := Value.eq_document_of_kind (hekind w hen)
      have hm : negated? (merge d e) = some ((Value.document e').arrive (negated? d)) :=
        get?_merge_of_some d hde.keys hen
      rw [tiers_of_some hen]
      cases hdn : negated? d with
      | none =>
        rw [hdn] at hm
        rw [tiers_of_none hdn, tiers_of_some hm, hat]
        rfl
      | some v =>
        obtain ⟨d', rfl⟩ := Value.eq_document_of_kind (hdkind v hdn)
        have hbelow : Apart d' e' := fun a ha b hb =>
          h a (mem_tiers_of_negated hdn ha) b (mem_tiers_of_negated hen hb)
        rw [hdn, Value.arrive, Value.mergeInto_document] at hm
        rw [tiers_of_some hdn, tiers_of_some hm, hat, Tiers.overlay,
          ih e' hen (hdbeneath d' hdn) (hde.get? hen) hbelow]

theorem isOperatorFragment_iff (d : Document) :
    isOperatorFragment d = true ↔ keys d ≠ [] ∧ ∀ k ∈ keys d, isOperator k = true := by
  cases d with
  | nil => simp [isOperatorFragment]
  | cons entry rest => simp [isOperatorFragment, keys]

theorem isOperatorFragment_merge {d e : Document} (hd : isOperatorFragment d = true)
    (he : isOperatorFragment e = true) (hk : (keys e).Nodup) :
    isOperatorFragment (merge d e) = true := by
  rw [isOperatorFragment_iff] at hd he ⊢
  constructor
  · rw [keys_merge d e hk]
    simp [hd.1]
  · intro k hkm
    rcases (mem_keys_merge d e hk k).1 hkm with h | h
    · exact hd.2 k h
    · exact he.2 k h

theorem Legible.isOperatorFragment {d : Document} (h : Legible d) : isOperatorFragment d = true := by
  obtain ⟨_, hf, _, _⟩ := h
  exact hf

theorem isOperator_not : isOperator Keyword.not.text = true := by decide

theorem negated?_not (v : Value) : negated? [(Keyword.not.text, v)] = some v := by
  simp [negated?, get?]

theorem legible_of_none {d : Document} (hf : isOperatorFragment d = true)
    (hn : negated? d = none) : Legible d := by
  refine .intro d hf ?_ ?_
  · intro v hv
    rw [hn] at hv
    cases hv
  · intro e he
    rw [hn] at he
    cases he

theorem Legible.not {d : Document} (h : Legible d) :
    Legible [(Keyword.not.text, .document d)] := by
  refine .intro _ ?_ ?_ ?_
  · rw [isOperatorFragment_iff]
    simp [isOperator_not]
  · intro v hv
    rw [negated?_not] at hv
    obtain rfl := Option.some.inj hv
    rfl
  · intro e he
    rw [negated?_not] at he
    obtain rfl := Value.document.inj (Option.some.inj he)
    exact h

theorem Legible.merge {d e : Document} (hd : Legible d) (he : Legible e)
    (hde : (Value.document e).Distinct) : Legible (merge d e) := by
  induction he generalizing d with
  | intro e hef hekind hebeneath ih =>
    obtain ⟨_, hdf, hdkind, hdbeneath⟩ := hd
    have hfrag := isOperatorFragment_merge hdf hef hde.keys
    cases hen : negated? e with
    | none =>
      have hm : negated? (Document.merge d e) = negated? d := get?_merge_of_none d hde.keys hen
      refine .intro _ hfrag ?_ ?_
      · rw [hm]
        exact hdkind
      · rw [hm]
        exact hdbeneath
    | some w =>
      obtain ⟨e', rfl⟩ := Value.eq_document_of_kind (hekind w hen)
      have hm : negated? (Document.merge d e) = some ((Value.document e').arrive (negated? d)) :=
        get?_merge_of_some d hde.keys hen
      have hlow : ∃ r, (Value.document e').arrive (negated? d) = .document r ∧ Legible r := by
        cases hdn : negated? d with
        | none => exact ⟨e', rfl, hebeneath e' hen⟩
        | some v =>
          obtain ⟨d', rfl⟩ := Value.eq_document_of_kind (hdkind v hdn)
          refine ⟨Document.merge d' e', ?_, ih e' hen (hdbeneath d' hdn) (hde.get? hen)⟩
          rw [Value.arrive, Value.mergeInto_document]
      obtain ⟨r, hr, lr⟩ := hlow
      rw [hr] at hm
      refine .intro _ hfrag ?_ ?_
      · intro v hv
        rw [hm] at hv
        obtain rfl := Option.some.inj hv
        rfl
      · intro r' hr'
        rw [hm] at hr'
        obtain rfl := Value.document.inj (Option.some.inj hr')
        exact lr

end Document
end DocFilter
