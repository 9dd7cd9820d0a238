import DocFilter.Bson.Equality
import DocFilter.Proofs.Negation.Classes
import Mathlib.Data.List.Perm.Subperm
import Mathlib.Data.List.Forall2

/-! The equality of values, which forgets the order of keys. Two documents that hold every key once
are equal when they hold equal values under every key; what merging and negating leave is then equal
again, although the two sides may go through their keys in different orders. -/

namespace DocFilter

def Value.Alike (v w : Value) : Prop := v.equal w = true

namespace Value

theorem Alike.kind_eq {v w : Value} (h : v.Alike w) : v.kind = w.kind := by
  rw [Alike] at h
  fun_cases Value.equal v w with
  | case22 => simp_all [Value.equal]
  | _ => rfl

theorem equalItems_iff (xs ys : List Value) :
    equalItems xs ys = true ↔ List.Forall₂ Alike xs ys := by
  induction xs generalizing ys with
  | nil => cases ys <;> simp [equalItems]
  | cons x xs ih =>
    cases ys with
    | nil => simp [equalItems]
    | cons y ys => simp [equalItems, ih, Alike]

theorem equalEntries_iff (d e : Document) :
    equalEntries d e = true ↔
      ∀ entry ∈ d, ∃ w, Document.get? e entry.1 = some w ∧ entry.2.Alike w := by
  induction d with
  | nil => simp [equalEntries]
  | cons entry rest ih =>
    obtain ⟨key, value⟩ := entry
    rw [equalEntries, Bool.and_eq_true, ih, List.forall_mem_cons]
    cases Document.get? e key <;> simp [Alike]

theorem alike_array_iff (xs ys : List Value) :
    (array xs).Alike (array ys) ↔ List.Forall₂ Alike xs ys := by
  rw [← equalItems_iff, Alike, equal]

theorem alike_document_iff (d e : Document) :
    (document d).Alike (document e) ↔
      d.length = e.length ∧
        ∀ entry ∈ d, ∃ w, Document.get? e entry.1 = some w ∧ entry.2.Alike w := by
  rw [Alike, equal, Bool.and_eq_true, equalEntries_iff, beq_iff_eq]

theorem Alike.keys_perm {d e : Document} (h : (document d).Alike (document e))
    (hd : (Document.keys d).Nodup) : (Document.keys d).Perm (Document.keys e) := by
  obtain ⟨hlen, hentries⟩ := (alike_document_iff d e).1 h
  have hsub : Document.keys d ⊆ Document.keys e := by
    intro k hk
    obtain ⟨entry, hentry, rfl⟩ := List.mem_map.1 hk
    obtain ⟨w, hw, -⟩ := hentries entry hentry
    exact List.mem_map.2 ⟨(entry.1, w), Document.mem_of_get? hw, rfl⟩
  refine (hd.subperm hsub).perm_of_length_le ?_
  simp [Document.keys, hlen]

theorem rel_none_iff {o o' : Option Value} (h : Option.Rel Alike o o') : o = none ↔ o' = none := by
  cases h <;> simp

theorem exists_of_rel {o o' : Option Value} (h : Option.Rel Alike o o') {v : Value}
    (hv : o = some v) : ∃ w, o' = some w ∧ v.Alike w := by
  cases h with
  | none => cases hv
  | some hvw =>
    obtain rfl := Option.some.inj hv
    exact ⟨_, rfl, hvw⟩

/-- Under every key both documents hold equal values, or both hold none. -/
theorem alike_iff_get? {d e : Document} (hd : (Document.keys d).Nodup)
    (he : (Document.keys e).Nodup) :
    (document d).Alike (document e) ↔
      ∀ k, Option.Rel Alike (Document.get? d k) (Document.get? e k) := by
  constructor
  · intro h k
    have hkeys := (h.keys_perm hd).mem_iff (a := k)
    obtain ⟨-, hentries⟩ := (alike_document_iff d e).1 h
    cases hv : Document.get? d k with
    | none =>
      rw [Document.get?_eq_none_iff, hkeys, ← Document.get?_eq_none_iff] at hv
      rw [hv]
      exact .none
    | some v =>
      obtain ⟨w, hw, hvw⟩ := hentries (k, v) (Document.mem_of_get? hv)
      rw [hw]
      exact .some hvw
  · intro h
    have hmem : ∀ k, k ∈ Document.keys d ↔ k ∈ Document.keys e := by
      intro k
      rw [← not_iff_not, ← Document.get?_eq_none_iff, ← Document.get?_eq_none_iff]
      exact rel_none_iff (h k)
    have hperm : (Document.keys d).Perm (Document.keys e) :=
      (List.perm_ext_iff_of_nodup hd he).2 hmem
    refine (alike_document_iff d e).2 ⟨by simpa [Document.keys] using hperm.length_eq, ?_⟩
    rintro ⟨k, v⟩ hentry
    exact exists_of_rel (h k) (Document.get?_of_mem hd hentry)

theorem alike_of_entries {d e : Document} (he : (Document.keys e).Nodup)
    (h : List.Forall₂ (fun x y => x.1 = y.1 ∧ x.2.Alike y.2) d e) :
    (document d).Alike (document e) := by
  refine (alike_document_iff d e).2 ⟨h.length_eq, fun entry hentry => ?_⟩
  obtain ⟨i, hi, rfl⟩ := List.getElem_of_mem hentry
  have hi' : i < e.length := h.length_eq ▸ hi
  have hkey : d[i].1 = e[i].1 := (h.get hi hi').1
  have hmem : (e[i].1, e[i].2) ∈ e := List.getElem_mem hi'
  rw [← hkey] at hmem
  exact ⟨e[i].2, Document.get?_of_mem he hmem, (h.get hi hi').2⟩

theorem alike_singleton_iff (k : String) (v w : Value) :
    (document [(k, v)]).Alike (document [(k, w)]) ↔ v.Alike w := by
  simp [alike_document_iff, Document.get?]

theorem alike_fragment_iff (k : Keyword) (v w : Value) :
    (fragment k v).Alike (fragment k w) ↔ v.Alike w :=
  alike_singleton_iff k.text v w

/-- Values that are equal arrive alike at places that hold equal values or none. -/
theorem Alike.mergeInto {v v' w w' : Value} (hv : v.Distinct) (hv' : v'.Distinct)
    (hw : w.Distinct) (hw' : w'.Distinct) (hvv : v.Alike v') (hww : w.Alike w') :
    (w.mergeInto v).Alike (w'.mergeInto v') := by
  induction w using induction_on_children generalizing v v' w' with
  | step w ih =>
    by_cases hsame : SameContainer v w
    · rcases hsame with ⟨hvk, hwk⟩ | ⟨hvk, hwk⟩
      · obtain ⟨d, rfl⟩ := eq_document_of_kind hvk
        obtain ⟨e, rfl⟩ := eq_document_of_kind hwk
        obtain ⟨d', rfl⟩ := eq_document_of_kind hvv.kind_eq.symm
        obtain ⟨e', rfl⟩ := eq_document_of_kind hww.kind_eq.symm
        have hd := (alike_iff_get? hv.keys hv'.keys).1 hvv
        have he := (alike_iff_get? hw.keys hw'.keys).1 hww
        rw [mergeInto_document, mergeInto_document, alike_iff_get?
          (Document.nodup_keys_merge hv.keys hw.keys) (Document.nodup_keys_merge hv'.keys hw'.keys)]
        intro k
        cases hx : Document.get? e k with
        | none =>
          have hx' := (rel_none_iff (he k)).1 hx
          rw [Document.get?_merge_of_none d hw.keys hx, Document.get?_merge_of_none d' hw'.keys hx']
          exact hd k
        | some x =>
          obtain ⟨x', hx', hxx⟩ := exists_of_rel (he k) hx
          rw [Document.get?_merge_of_some d hw.keys hx, Document.get?_merge_of_some d' hw'.keys hx']
          refine .some ?_
          cases hy : Document.get? d k with
          | none =>
            rw [(rel_none_iff (hd k)).1 hy]
            exact hxx
          | some y =>
            obtain ⟨y', hy', hyy⟩ := exists_of_rel (hd k) hy
            rw [hy']
            exact ih x (mem_children_of_get? hx) (hv.get? hy) (hv'.get? hy') (hw.get? hx)
              (hw'.get? hx') hyy hxx
      · obtain ⟨xs, rfl⟩ := eq_array_of_kind hvk
        obtain ⟨ys, rfl⟩ := eq_array_of_kind hwk
        obtain ⟨xs', rfl⟩ := eq_array_of_kind hvv.kind_eq.symm
        obtain ⟨ys', rfl⟩ := eq_array_of_kind hww.kind_eq.symm
        rw [alike_array_iff] at hvv hww
        rw [mergeInto_array, mergeInto_array, alike_array_iff]
        exact List.rel_append hvv hww
    · have hsame' : ¬ SameContainer v' w' := by
        rwa [SameContainer, ← hvv.kind_eq, ← hww.kind_eq]
      rwa [mergeInto_of_not_sameContainer hsame, mergeInto_of_not_sameContainer hsame']

theorem isLoneNot_document_iff (d : Document) :
    (document d).IsLoneNot ↔ Document.keys d = [Keyword.not.text] := by
  constructor
  · rintro ⟨w, hw⟩
    obtain rfl := document.inj hw
    rfl
  · intro h
    have hlen : d.length = 1 := by simpa [Document.keys] using congrArg List.length h
    obtain ⟨⟨k, w⟩, rfl⟩ := List.length_eq_one_iff.1 hlen
    obtain rfl : k = Keyword.not.text := by simpa using h
    exact ⟨w, rfl⟩

theorem Alike.isLoneNot_iff {v w : Value} (hv : v.Distinct) (h : v.Alike w) :
    v.IsLoneNot ↔ w.IsLoneNot := by
  by_cases hk : v.kind = .object
  · obtain ⟨d, rfl⟩ := eq_document_of_kind hk
    obtain ⟨e, rfl⟩ := eq_document_of_kind (h.kind_eq ▸ hk)
    have hkeys := h.keys_perm hv.keys
    rw [isLoneNot_document_iff, isLoneNot_document_iff, ← List.perm_singleton, ← List.perm_singleton]
    exact hkeys.congr_left _
  · have hnot : ∀ u : Value, u.kind ≠ .object → ¬ u.IsLoneNot :=
      fun u hu hl => not_isFragment_of_kind hu hl.isFragment
    exact iff_of_false (hnot v hk) (hnot w (h.kind_eq ▸ hk))

theorem Alike.isFragment_iff {v w : Value} (hv : v.Distinct) (h : v.Alike w) :
    v.IsFragment ↔ w.IsFragment := by
  by_cases hk : v.kind = .object
  · obtain ⟨d, rfl⟩ := eq_document_of_kind hk
    obtain ⟨e, rfl⟩ := eq_document_of_kind (h.kind_eq ▸ hk)
    have hkeys := h.keys_perm hv.keys
    have hnil : Document.keys d = [] ↔ Document.keys e = [] := by
      rw [← List.perm_nil, ← List.perm_nil]
      exact hkeys.congr_left _
    rw [isFragment_document_iff, isFragment_document_iff, Document.isOperatorFragment_iff,
      Document.isOperatorFragment_iff, Ne, Ne, hnil]
    simp only [hkeys.mem_iff]
  · exact iff_of_false (not_isFragment_of_kind hk) (not_isFragment_of_kind (h.kind_eq ▸ hk))

/-- Equal values are of one class, so they are negated in the same way. -/
theorem Alike.negation {v w : Value} (hv : v.Distinct) (h : v.Alike w) :
    v.negation.2.Alike w.negation.2 := by
  have hfrag := h.isFragment_iff hv
  have hlone := h.isLoneNot_iff hv
  rcases v.isLoneNot_or_wrap_or_differ with hl | ⟨hf, hl⟩ | hf
  · obtain ⟨u', rfl⟩ := hlone.1 hl
    obtain ⟨u, rfl⟩ := hl
    simpa using (alike_fragment_iff .not u u').1 h
  · rw [negation_of_wrap hf hl, negation_of_wrap (hfrag.1 hf) (mt hlone.2 hl)]
    exact (alike_fragment_iff .not v w).2 h
  · rw [negation_of_differ hf, negation_of_differ (mt hfrag.2 hf)]
    exact (alike_fragment_iff .ne v w).2 h

end Value

end DocFilter
