import DocFilter.Proofs.Merge.Path

/-! Merging once more what has just been merged. Keys are there already and plain values replace
themselves, so only items can make a difference: they are appended again. Whether a value holds any
is read off the value alone, and what it is merged into does not matter. -/

namespace DocFilter

namespace Value

/-- No path of keys leads to an array with items in it. -/
def ItemFree (v : Value) : Prop := ∀ p items, v.at? p = some (array items) → items = []

theorem itemFree_array_iff (items : List Value) : (array items).ItemFree ↔ items = [] := by
  constructor
  · intro h
    exact h [] items rfl
  · rintro rfl p items hp
    cases p with
    | nil => cases hp; rfl
    | cons k p => cases hp

theorem itemFree_document_iff (d : Document) :
    (document d).ItemFree ↔ ∀ k v, Document.get? d k = some v → v.ItemFree := by
  constructor
  · intro h k v hv p items hp
    have hk : (document d).child? k = some v := hv
    exact h (k :: p) items ((at?_cons_of_some hk p).trans hp)
  · intro h p items hp
    cases p with
    | nil => cases hp
    | cons k p =>
      cases hk : (document d).child? k with
      | none =>
        rw [at?_cons_of_none hk] at hp
        cases hp
      | some v =>
        rw [at?_cons_of_some hk] at hp
        exact h k v hk p items hp

theorem itemFree_of_kind {v : Value} (hd : v.kind ≠ .object) (ha : v.kind ≠ .array) :
    v.ItemFree := by
  intro p items hp
  cases p with
  | nil =>
    obtain rfl := Option.some.inj hp
    exact absurd rfl ha
  | cons k p =>
    rw [at?_cons_of_none (child?_of_kind hd k)] at hp
    cases hp

end Value

namespace Document

theorem add_eq_self {d : Document} {key : String} {value old : Value} (h : get? d key = some old)
    (hold : value.mergeInto old = old) : add d key value = d := by
  induction d with
  | nil => cases h
  | cons entry rest ih =>
    obtain ⟨k, v⟩ := entry
    by_cases hk : k = key
    · obtain rfl : v = old := by simpa [get?, hk] using h
      rw [add, alter, if_pos hk]
      change (k, value.mergeInto v) :: rest = _
      rw [hold]
    · have hrest : alter key value.arrive rest = rest := ih (by simpa [get?, hk] using h)
      rw [add, alter, if_neg hk, hrest]

/-- A merge changes nothing if every incoming entry finds a value that absorbs its own. -/
theorem merge_eq_self_iff {d e : Document} (he : (keys e).Nodup) :
    merge d e = d ↔
      ∀ k v, get? e k = some v → ∃ w, get? d k = some w ∧ v.mergeInto w = w := by
  constructor
  · intro h k v hv
    have hk := get?_merge_of_some d he hv
    rw [h] at hk
    refine ⟨_, hk, ?_⟩
    -- what is stored now is what was left when the value arrived
    rw [hk] at hk
    exact (Option.some.inj hk).symm
  · intro h
    induction e with
    | nil => exact merge_nil d
    | cons entry rest ih =>
      obtain ⟨key, value⟩ := entry
      obtain ⟨hkey, hrest⟩ := List.nodup_cons.1 he
      obtain ⟨w, hw, habsorb⟩ := h key value (by simp [get?])
      rw [merge_cons, add_eq_self hw habsorb]
      refine ih hrest fun k v hv => h k v ?_
      have hne : key ≠ k := by
        rintro rfl
        exact hkey (List.mem_map.2 ⟨_, mem_of_get? hv, rfl⟩)
      simpa [get?, hne] using hv

end Document

namespace Value

/-- A document that arrives is merged into a document, the empty one if there is none. -/
theorem exists_document_mergeInto {e : Document} (he : (Document.keys e).Nodup) (x : Value) :
    ∃ d, (document e).mergeInto x = document (Document.merge d e) := by
  by_cases hx : x.kind = .object
  · obtain ⟨d, rfl⟩ := eq_document_of_kind hx
    exact ⟨d, mergeInto_document d e⟩
  · refine ⟨[], ?_⟩
    rw [document_mergeInto_of_kind e hx, Document.merge_empty he]

theorem exists_array_mergeInto (ys : List Value) (x : Value) :
    ∃ xs, (array ys).mergeInto x = array (xs ++ ys) := by
  by_cases hx : SameContainer x (array ys)
  · obtain ⟨-, hy⟩ | ⟨hx, -⟩ := hx
    · cases hy
    · obtain ⟨xs, rfl⟩ := eq_array_of_kind hx
      exact ⟨xs, mergeInto_array xs ys⟩
  · exact ⟨[], mergeInto_of_not_sameContainer hx⟩

theorem mergeInto_of_kind {y : Value} (hd : y.kind ≠ .object) (ha : y.kind ≠ .array) (x : Value) :
    y.mergeInto x = y :=
  mergeInto_of_not_sameContainer (by simp [SameContainer, hd, ha])

/-- The second time changes nothing exactly if no items come in. -/
theorem mergeInto_twice_iff {y : Value} (hy : y.Distinct) (x : Value) :
    y.mergeInto (y.mergeInto x) = y.mergeInto x ↔ y.ItemFree := by
  induction y using induction_on_children generalizing x with
  | step y ih =>
    by_cases hd : y.kind = .object
    · obtain ⟨e, rfl⟩ := eq_document_of_kind hd
      obtain ⟨d, hx⟩ := exists_document_mergeInto hy.keys x
      rw [hx, mergeInto_document, document.injEq, Document.merge_eq_self_iff hy.keys,
        itemFree_document_iff]
      refine forall₃_congr fun k v hv => ?_
      have absorbed (u : Value) : v.mergeInto (v.mergeInto u) = v.mergeInto u ↔ v.ItemFree :=
        ih v (mem_children_of_get? hv) (hy.get? hv) u
      rw [Document.get?_merge_of_some d hy.keys hv]
      simp only [Option.some.injEq, exists_eq_left']
      cases Document.get? d k with
      | some u => exact absorbed u
      | none =>
        -- a value that finds its place free is left as if it had replaced something
        have hnull : v.mergeInto .null = v :=
          mergeInto_of_not_sameContainer (by simp [SameContainer, kind])
        change v.mergeInto v = v ↔ v.ItemFree
        simpa only [hnull] using absorbed .null
    · by_cases ha : y.kind = .array
      · obtain ⟨ys, rfl⟩ := eq_array_of_kind ha
        obtain ⟨xs, hx⟩ := exists_array_mergeInto ys x
        rw [hx, mergeInto_array, array.injEq, itemFree_array_iff]
        exact List.append_right_eq_self
      · rw [mergeInto_of_kind hd ha, mergeInto_of_kind hd ha]
        exact iff_of_true rfl (itemFree_of_kind hd ha)

end Value

namespace Filter

/-- Merging a filter a second time changes nothing exactly if no path of keys leads to items in it,
whatever it is merged into. -/
theorem merge_again_eq_iff (x e : Filter) (he : e.toValue.Distinct) :
    ((x.perform (.merge e)).filter.perform (.merge e)).filter = (x.perform (.merge e)).filter ↔
      ∀ p items, e.toValue.at? p = some (.array items) → items = [] := by
  have hdocument (f g : Filter) : f = g ↔ f.toValue = g.toValue := by
    obtain ⟨d⟩ := f
    obtain ⟨d'⟩ := g
    simp [toValue]
  rw [hdocument, toValue_perform_merge, toValue_perform_merge]
  exact Value.mergeInto_twice_iff he x.toValue

/-- A number and an empty array are merged twice as well as once, while the items of `size` would
come twice. -/
theorem merge_again_eq_iff_tags :
    let x : Filter := ⟨[("tags", .array [.int32 1]), ("size", .int32 2)]⟩
    let e : Filter := ⟨[("size", .document [("$lt", .int32 3)]), ("tags", .array [])]⟩
    let e' : Filter := ⟨[("size", .document [("$in", .array [.int32 3])])]⟩
    e.toValue.Distinct ∧ e'.toValue.Distinct ∧
      ((x.perform (.merge e)).filter.perform (.merge e)).filter = (x.perform (.merge e)).filter ∧
      ((x.perform (.merge e')).filter.perform (.merge e')).filter ≠
        (x.perform (.merge e')).filter := by
  intro x e e'
  have hn (n : Int32) : (Value.int32 n).Distinct := Value.distinct_of_leaf rfl rfl
  have he : e.toValue.Distinct := by simp [e, toValue, hn]
  have he' : e'.toValue.Distinct := by simp [e', toValue, hn]
  refine ⟨he, he', (merge_again_eq_iff x e he).2 ?_, fun h => ?_⟩
  · have hfree : e.toValue.ItemFree := by
      refine (Value.itemFree_document_iff _).2 fun k v hv => ?_
      have hmem : k = "size" ∧ v = .document [("$lt", .int32 3)] ∨ k = "tags" ∧ v = .array [] := by
        simpa [e] using Document.mem_of_get? hv
      obtain ⟨-, rfl⟩ | ⟨-, rfl⟩ := hmem
      · refine (Value.itemFree_document_iff _).2 fun k v hv => ?_
        obtain ⟨-, rfl⟩ : k = "$lt" ∧ v = .int32 3 := by simpa using Document.mem_of_get? hv
        exact Value.itemFree_of_kind (by decide) (by decide)
      · exact (Value.itemFree_array_iff _).2 rfl
    exact hfree
  · exact absurd ((merge_again_eq_iff x e' he').1 h ["size", "$in"] _ rfl) (by simp)

end Filter
end DocFilter
