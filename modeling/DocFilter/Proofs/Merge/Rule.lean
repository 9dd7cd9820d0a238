import DocFilter.Filter.Call
import DocFilter.Proofs.Document.Distinct

/-! The merge rule read by kinds: two documents merge key by key, two arrays are joined, and any
other incoming value replaces the stored one. A filter takes in its constraints by the same rule,
so merging another filter is merging its document. -/

namespace DocFilter

def SameContainer (x y : Value) : Prop :=
  (x.kind = .object ∧ y.kind = .object) ∨ (x.kind = .array ∧ y.kind = .array)

namespace Value

@[simp] theorem kind_document (d : Document) : (document d).kind = .object := rfl

@[simp] theorem kind_array (items : List Value) : (array items).kind = .array := rfl

@[simp] theorem mergeInto_document (d e : Document) :
    (document e).mergeInto (document d) = document (Document.merge d e) := by
  rw [mergeInto]
  rfl

@[simp] theorem mergeInto_array (xs ys : List Value) :
    (array ys).mergeInto (array xs) = array (xs ++ ys) := by
  rw [mergeInto]

/-- Under a key that they share and that is the only one of both, two values meet. -/
theorem mergeInto_singleton (k : String) (v w : Value) :
    (document [(k, w)]).mergeInto (document [(k, v)]) = document [(k, w.mergeInto v)] := by
  rw [mergeInto_document, Document.merge_cons, Document.merge_nil]
  simp [Document.add, Document.alter, arrive]

theorem eq_document_of_kind {v : Value} (h : v.kind = .object) : ∃ d, v = document d := by
  cases v with
  | document d => exact ⟨d, rfl⟩
  | _ => cases h

theorem eq_array_of_kind {v : Value} (h : v.kind = .array) : ∃ xs, v = array xs := by
  cases v with
  | array xs => exact ⟨xs, rfl⟩
  | _ => cases h

/-- Unless both are documents or both arrays, the incoming value replaces the stored one. -/
theorem mergeInto_of_not_sameContainer {x y : Value} (h : ¬ SameContainer x y) :
    y.mergeInto x = y := by
  cases y with
  | document e =>
    cases x with
    | document d => exact absurd (Or.inl ⟨rfl, rfl⟩) h
    | _ => simp [mergeInto]
  | array ys =>
    cases x with
    | array xs => exact absurd (Or.inr ⟨rfl, rfl⟩) h
    | _ => simp [mergeInto]
  | _ => simp [mergeInto]

theorem document_mergeInto_of_kind {x : Value} (e : Document) (hx : x.kind ≠ .object) :
    (document e).mergeInto x = document e := by
  apply mergeInto_of_not_sameContainer
  simp [SameContainer, hx]

theorem kind_mergeInto (x y : Value) : (y.mergeInto x).kind = y.kind := by
  by_cases h : SameContainer x y
  · rcases h with ⟨hx, hy⟩ | ⟨hx, hy⟩
    · obtain ⟨d, rfl⟩ := eq_document_of_kind hx
      obtain ⟨e, rfl⟩ := eq_document_of_kind hy
      simp
    · obtain ⟨xs, rfl⟩ := eq_array_of_kind hx
      obtain ⟨ys, rfl⟩ := eq_array_of_kind hy
      simp
  · rw [mergeInto_of_not_sameContainer h]

theorem Distinct.mergeInto {x y : Value} (hx : x.Distinct) (hy : y.Distinct) :
    (y.mergeInto x).Distinct := by
  induction y using induction_on_children generalizing x with
  | step y ih =>
    by_cases h : SameContainer x y
    · rcases h with ⟨hxk, hyk⟩ | ⟨hxk, hyk⟩
      · obtain ⟨d, rfl⟩ := eq_document_of_kind hxk
        obtain ⟨e, rfl⟩ := eq_document_of_kind hyk
        rw [mergeInto_document]
        refine distinct_document_of_get? (Document.nodup_keys_merge hx.keys hy.keys) ?_
        intro k v hv
        cases he : Document.get? e k with
        | none =>
          rw [Document.get?_merge_of_none d hy.keys he] at hv
          exact hx.get? hv
        | some w =>
          rw [Document.get?_merge_of_some d hy.keys he] at hv
          obtain rfl := Option.some.inj hv
          cases hd : Document.get? d k with
          | none => exact hy.get? he
          | some u => exact ih w (mem_children_of_get? he) (hx.get? hd) (hy.get? he)
      · obtain ⟨xs, rfl⟩ := eq_array_of_kind hxk
        obtain ⟨ys, rfl⟩ := eq_array_of_kind hyk
        rw [mergeInto_array, distinct_array]
        rw [distinct_array] at hx hy
        intro w hw
        rcases List.mem_append.1 hw with hw | hw
        · exact hx w hw
        · exact hy w hw
    · rw [mergeInto_of_not_sameContainer h]
      exact hy

end Value

namespace Document

/-- A property of values that a meeting keeps is kept when a value is added. -/
theorem forall_mem_add {P : Value → Prop} {d : Document} {key : String} {value : Value}
    (hm : ∀ old, P old → P (value.mergeInto old)) (hd : ∀ entry ∈ d, P entry.2) (hv : P value) :
    ∀ entry ∈ add d key value, P entry.2 := by
  induction d with
  | nil => exact List.forall_mem_singleton.2 hv
  | cons entry rest ih =>
    obtain ⟨hentry, hrest⟩ := List.forall_mem_cons.1 hd
    rw [add, alter]
    by_cases hk : entry.1 = key
    · rw [if_pos hk]
      exact List.forall_mem_cons.2 ⟨hm entry.2 hentry, hrest⟩
    · rw [if_neg hk]
      exact List.forall_mem_cons.2 ⟨hentry, ih hrest⟩

end Document

namespace Filter

theorem forall_mem_addAll {P : Value → Prop} {f : Filter} {cs : List Constraint}
    (hm : ∀ v w, P v → P w → P (w.mergeInto v)) (hf : ∀ entry ∈ f.document, P entry.2)
    (hcs : ∀ c ∈ cs, P c.value) : ∀ entry ∈ (f.addAll cs).document, P entry.2 := by
  induction cs generalizing f with
  | nil => exact hf
  | cons c rest ih =>
    obtain ⟨hc, hrest⟩ := List.forall_mem_cons.1 hcs
    exact ih (Document.forall_mem_add (fun old hold => hm old c.value hold hc) hf hc) hrest

theorem document_addAll (f : Filter) (cs : List Constraint) :
    (f.addAll cs).document = Document.merge f.document (cs.map fun c => (c.field, c.value)) := by
  induction cs generalizing f with
  | nil => simp [addAll]
  | cons c rest ih =>
    rw [addAll, ih, List.map_cons, Document.merge_cons]
    rfl

theorem document_perform_merge (f g : Filter) :
    (f.perform (.merge g)).filter.document = Document.merge f.document g.document := by
  change (f.addAll (g.document.map Constraint.ofEntry)).document = _
  rw [document_addAll, List.map_map]
  congr 1
  exact List.map_id _

theorem toValue_perform_merge (f g : Filter) :
    (f.perform (.merge g)).filter.toValue = g.toValue.mergeInto f.toValue := by
  rw [toValue, document_perform_merge]
  exact (Value.mergeInto_document _ _).symm

end Filter
end DocFilter
