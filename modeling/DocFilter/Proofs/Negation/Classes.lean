import DocFilter.Proofs.Negation.Successive

/-! How a value is negated depends on its class: a lone `$not` is taken off, any other operator
fragment is wrapped, and every other value becomes the operand of `$ne`. The classes are said here
by the shape of the value alone. Two values of one class merge into a value of that class, which is
why negating and merging can change places. -/

namespace DocFilter

theorem Keyword.text_injective : Function.Injective Keyword.text := by
  have hnodup : (Keyword.listed.map Keyword.text).Nodup := by decide
  intro k k' h
  exact List.inj_on_of_nodup_map hnodup (mem_listed k) (mem_listed k') h

namespace Value

def IsFragment (v : Value) : Prop :=
  ∃ d, v = document d ∧ Document.keys d ≠ [] ∧ ∀ k ∈ Document.keys d, isOperator k = true

def IsLoneNot (v : Value) : Prop := ∃ w, v = fragment .not w

def InClass (v : Value) : Negation → Prop
  | .unwrap => v.IsLoneNot
  | .wrap => v.IsFragment ∧ ¬ v.IsLoneNot
  | .differ => ¬ v.IsFragment

theorem isFragment_document_iff (d : Document) :
    (document d).IsFragment ↔ Document.isOperatorFragment d = true := by
  rw [Document.isOperatorFragment_iff]
  constructor
  · rintro ⟨e, he, h⟩
    obtain rfl := document.inj he
    exact h
  · intro h
    exact ⟨d, rfl, h⟩

theorem isOperator_text (k : Keyword) : isOperator k.text = true := by
  cases k <;> decide

theorem isFragment_fragment (k : Keyword) (v : Value) : (fragment k v).IsFragment :=
  ⟨[(k.text, v)], rfl, by simp, by simpa using isOperator_text k⟩

theorem IsLoneNot.isFragment {v : Value} (h : v.IsLoneNot) : v.IsFragment := by
  obtain ⟨w, rfl⟩ := h
  exact isFragment_fragment .not w

theorem not_isFragment_of_kind {v : Value} (h : v.kind ≠ .object) : ¬ v.IsFragment := by
  rintro ⟨d, rfl, -⟩
  exact h rfl

theorem isLoneNot_or_wrap_or_differ (v : Value) :
    v.IsLoneNot ∨ (v.IsFragment ∧ ¬ v.IsLoneNot) ∨ ¬ v.IsFragment := by
  by_cases hf : v.IsFragment
  · by_cases hl : v.IsLoneNot
    · exact Or.inl hl
    · exact Or.inr (Or.inl ⟨hf, hl⟩)
  · exact Or.inr (Or.inr hf)

theorem not_isLoneNot_of_mem_keys {d : Document} {k : String} (hk : k ∈ Document.keys d)
    (hne : k ≠ Keyword.not.text) : ¬ (document d).IsLoneNot := by
  rintro ⟨w, hw⟩
  obtain rfl := document.inj hw
  exact hne (by simpa using hk)

theorem text_ne_not {k : Keyword} (hk : k ≠ .not) : k.text ≠ Keyword.not.text :=
  fun h => hk (Keyword.text_injective h)

theorem not_isLoneNot_fragment {k : Keyword} (hk : k ≠ .not) (v : Value) :
    ¬ (fragment k v).IsLoneNot :=
  not_isLoneNot_of_mem_keys (d := [(k.text, v)]) (List.mem_singleton_self _) (text_ne_not hk)

/-- A fragment that is no lone `$not` has another operator in it. -/
theorem exists_key_of_not_isLoneNot {d : Document} (hd : (Document.keys d).Nodup)
    (hf : (document d).IsFragment) (hl : ¬ (document d).IsLoneNot) :
    ∃ k ∈ Document.keys d, k ≠ Keyword.not.text := by
  by_contra hall
  push Not at hall
  obtain ⟨e, he, hne, -⟩ := hf
  obtain rfl := document.inj he
  cases d with
  | nil => exact hne rfl
  | cons entry rest =>
    obtain ⟨key, value⟩ := entry
    have hkey : key = Keyword.not.text := hall key (by simp)
    cases rest with
    | nil => exact hl ⟨value, by rw [hkey]; rfl⟩
    | cons entry' rest' =>
      obtain ⟨key', value'⟩ := entry'
      have hkey' : key' = Keyword.not.text := hall key' (by simp)
      simp [hkey, hkey'] at hd

@[simp] theorem negation_fragment_not (w : Value) : (fragment .not w).negation = (.unwrap, w) := by
  have hf : Document.isOperatorFragment [(Keyword.not.text, w)] = true :=
    (isFragment_document_iff _).1 (isFragment_fragment .not w)
  simp [fragment, negation, hf, Document.loneNot?]

theorem negation_of_wrap {v : Value} (hf : v.IsFragment) (hl : ¬ v.IsLoneNot) :
    v.negation = (.wrap, fragment .not v) := by
  obtain ⟨d, rfl, -⟩ := id hf
  have hn : Document.loneNot? d = none := by
    cases h : Document.loneNot? d with
    | none => rfl
    | some w => exact absurd ⟨w, congrArg document (Document.loneNot?_eq_some h)⟩ hl
  simp [negation, (isFragment_document_iff d).1 hf, hn]

theorem negation_of_differ {v : Value} (hf : ¬ v.IsFragment) :
    v.negation = (.differ, fragment .ne v) := by
  cases v with
  | document d => simp [negation, mt (isFragment_document_iff d).2 hf]
  | _ => rfl

/-- Every value is in exactly the class that its negation names. -/
theorem inClass_iff (v : Value) (n : Negation) : v.InClass n ↔ v.negation.1 = n := by
  rcases v.isLoneNot_or_wrap_or_differ with hl | ⟨hf, hl⟩ | hf
  · obtain ⟨w, rfl⟩ := id hl
    cases n <;> simp [InClass, hl, hl.isFragment]
  · cases n <;> simp [InClass, hf, hl, negation_of_wrap hf hl]
  · have hl : ¬ v.IsLoneNot := mt IsLoneNot.isFragment hf
    cases n <;> simp [InClass, hf, hl, negation_of_differ hf]

theorem isFragment_iff_negation (v : Value) : v.IsFragment ↔ v.negation.1 ≠ .differ := by
  rw [Ne, ← inClass_iff]
  exact not_not.symm

instance : DecidablePred IsLoneNot := fun v => decidable_of_iff _ (v.inClass_iff .unwrap).symm

instance : DecidablePred IsFragment := fun v => decidable_of_iff _ v.isFragment_iff_negation.symm

theorem fragment_mergeInto_fragment (k : Keyword) (v w : Value) :
    (fragment k w).mergeInto (fragment k v) = fragment k (w.mergeInto v) :=
  mergeInto_singleton k.text v w

theorem isFragment_mergeInto {v w : Value} (hv : v.IsFragment) (hw : w.IsFragment)
    (hd : w.Distinct) : (w.mergeInto v).IsFragment := by
  obtain ⟨d, rfl, -⟩ := id hv
  obtain ⟨e, rfl, -⟩ := id hw
  rw [isFragment_document_iff] at hv hw
  rw [mergeInto_document, isFragment_document_iff]
  exact Document.isOperatorFragment_merge hv hw hd.keys

/-- What merges into a fragment that is no lone `$not` is none either. -/
theorem not_isLoneNot_mergeInto (v : Value) {w : Value} (hw : w.IsFragment) (hl : ¬ w.IsLoneNot)
    (hd : w.names.Nodup) : ¬ (w.mergeInto v).IsLoneNot := by
  obtain ⟨e, rfl, -⟩ := id hw
  obtain ⟨k, hk, hne⟩ := exists_key_of_not_isLoneNot hd hw hl
  by_cases hv : v.kind = .object
  · obtain ⟨d, rfl⟩ := eq_document_of_kind hv
    rw [mergeInto_document]
    exact not_isLoneNot_of_mem_keys ((Document.mem_keys_merge d e hd k).2 (Or.inr hk)) hne
  · rw [document_mergeInto_of_kind e hv]
    exact hl

/-- Two values that are no fragments do not merge into one. -/
theorem not_isFragment_mergeInto {v w : Value} (hv : ¬ v.IsFragment) (hw : ¬ w.IsFragment)
    (hd : w.Distinct) : ¬ (w.mergeInto v).IsFragment := by
  by_cases h : SameContainer v w
  · rcases h with ⟨hvk, hwk⟩ | ⟨hvk, hwk⟩
    · obtain ⟨d, rfl⟩ := eq_document_of_kind hvk
      obtain ⟨e, rfl⟩ := eq_document_of_kind hwk
      rw [mergeInto_document]
      rintro ⟨m, hm, hne, hall⟩
      obtain rfl := document.inj hm
      have hkeys := Document.mem_keys_merge d e hd.keys
      have hd0 : Document.keys d = [] := by
        by_contra h0
        exact hv ⟨d, rfl, h0, fun k hk => hall k ((hkeys k).2 (Or.inl hk))⟩
      have he0 : Document.keys e = [] := by
        by_contra h0
        exact hw ⟨e, rfl, h0, fun k hk => hall k ((hkeys k).2 (Or.inr hk))⟩
      apply hne
      rw [Document.keys_merge d e hd.keys, hd0, he0]
      rfl
    · obtain ⟨xs, rfl⟩ := eq_array_of_kind hvk
      obtain ⟨ys, rfl⟩ := eq_array_of_kind hwk
      rw [mergeInto_array]
      exact not_isFragment_of_kind (by simp)
  · rw [mergeInto_of_not_sameContainer h]
    exact hw

/-- Negating and merging change places on two values of one class. -/
theorem negation_mergeInto {v w : Value} {n : Negation} (hv : v.InClass n) (hw : w.InClass n)
    (hd : w.Distinct) :
    (w.mergeInto v).negation.2 = w.negation.2.mergeInto v.negation.2 := by
  cases n with
  | unwrap =>
    obtain ⟨v', rfl⟩ := hv
    obtain ⟨w', rfl⟩ := hw
    simp [fragment_mergeInto_fragment]
  | wrap =>
    obtain ⟨hvf, hvl⟩ := hv
    obtain ⟨hwf, hwl⟩ := hw
    have hf := isFragment_mergeInto hvf hwf hd
    have hl := not_isLoneNot_mergeInto v hwf hwl ((distinct_iff w).1 hd).1
    rw [negation_of_wrap hf hl, negation_of_wrap hvf hvl, negation_of_wrap hwf hwl,
      fragment_mergeInto_fragment]
  | differ =>
    rw [negation_of_differ (not_isFragment_mergeInto hv hw hd), negation_of_differ hv,
      negation_of_differ hw, fragment_mergeInto_fragment]

end Value
end DocFilter
