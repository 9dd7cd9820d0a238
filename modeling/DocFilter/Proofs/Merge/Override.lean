import DocFilter.Proofs.Merge.Rule

/-! When an arriving value takes the place of the stored one as if nothing had been there: nothing
that was stored may be left of it, so two arrays meet only where the stored one is empty, and a
stored document may have no key but the first keys of the arriving one. -/

namespace DocFilter
namespace Value

/-- Of the old value nothing is left when the new one arrives. -/
inductive Overrides : (new old : Value) → Prop where
  | replaced (new old : Value) (h : ¬ SameContainer old new) : Overrides new old
  | items (new : List Value) : Overrides (array new) (array [])
  | entries (new old : Document) (keys : Document.keys old <+: Document.keys new)
      (values : ∀ k v w, Document.get? new k = some v → Document.get? old k = some w →
        Overrides v w) : Overrides (document new) (document old)

theorem overrides_array_iff (new old : List Value) :
    (array new).Overrides (array old) ↔ old = [] := by
  constructor
  · intro h
    cases h with
    | replaced _ _ h => exact absurd (Or.inr ⟨rfl, rfl⟩) h
    | items => rfl
  · rintro rfl
    exact .items new

theorem overrides_document_iff (new old : Document) :
    (document new).Overrides (document old) ↔ Document.keys old <+: Document.keys new ∧
      ∀ k v w, Document.get? new k = some v → Document.get? old k = some w → v.Overrides w := by
  constructor
  · intro h
    cases h with
    | replaced _ _ h => exact absurd (Or.inl ⟨rfl, rfl⟩) h
    | entries _ _ keys values => exact ⟨keys, values⟩
  · rintro ⟨keys, values⟩
    exact .entries new old keys values

/-- Keys that come first among those of the new document are all that may be there before. -/
theorem keys_merge_eq_iff {old new : Document} (h : (Document.keys new).Nodup) :
    Document.keys (Document.merge old new) = Document.keys new ↔
      Document.keys old <+: Document.keys new := by
  rw [Document.keys_merge old new h]
  constructor
  · intro he
    exact ⟨_, he⟩
  · rintro ⟨rest, hr⟩
    have hd : (Document.keys old).Disjoint rest := (List.nodup_append'.1 (hr ▸ h)).2.2
    have hfilter : rest.filter (· ∉ Document.keys old) = rest :=
      List.filter_eq_self.2 fun k hk => by simpa using fun ho => hd ho hk
    rw [← hr, List.filter_append, hfilter, List.append_cancel_left_eq]
    simp

/-- The arriving value is all that is left exactly if it overrides the stored one. -/
theorem mergeInto_eq_self_iff {new old : Value} (hn : new.Distinct) :
    new.mergeInto old = new ↔ new.Overrides old := by
  induction new using induction_on_children generalizing old with
  | step new ih =>
    by_cases hs : SameContainer old new
    · rcases hs with ⟨hok, hnk⟩ | ⟨hok, hnk⟩
      · obtain ⟨d, rfl⟩ := eq_document_of_kind hok
        obtain ⟨e, rfl⟩ := eq_document_of_kind hnk
        have hkeys := @keys_merge_eq_iff d e hn.keys
        rw [mergeInto_document, document.injEq, overrides_document_iff]
        constructor
        · intro hm
          refine ⟨hkeys.1 (by rw [hm]), fun k v w hv hw => ?_⟩
          have hget := Document.get?_merge_of_some d hn.keys hv
          rw [hm, hv, hw] at hget
          exact (ih v (mem_children_of_get? hv) (hn.get? hv)).1 (Option.some.inj hget).symm
        · rintro ⟨hk, hvalues⟩
          have hsame := hkeys.2 hk
          refine Document.ext (hsame ▸ hn.keys) hsame fun k => ?_
          cases hv : Document.get? e k with
          | none =>
            -- a key that the new document lacks is missing in the old one too
            rw [Document.get?_merge_of_none d hn.keys hv, Document.get?_eq_none_iff]
            exact fun hmem => (Document.get?_eq_none_iff e k).1 hv (hk.subset hmem)
          | some v =>
            rw [Document.get?_merge_of_some d hn.keys hv]
            cases hw : Document.get? d k with
            | none => rfl
            | some w =>
              exact congrArg some ((ih v (mem_children_of_get? hv) (hn.get? hv)).2
                (hvalues k v w hv hw))
      · obtain ⟨xs, rfl⟩ := eq_array_of_kind hok
        obtain ⟨ys, rfl⟩ := eq_array_of_kind hnk
        rw [mergeInto_array, array.injEq, overrides_array_iff]
        exact List.append_left_eq_self
    · rw [mergeInto_of_not_sameContainer hs]
      exact iff_of_true rfl (.replaced _ _ hs)

end Value
end DocFilter
