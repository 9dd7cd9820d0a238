import DocFilter.Proofs.Merge.Path

/-! When it does not matter how three merges are grouped. A value of another kind in the middle
erases what is on its left if it arrives first, and is itself erased before it can do so if the
last value reaches it first. Everything else regroups, so the exact condition names these places
and what must hold there. -/

namespace DocFilter

theorem SameContainer.symm {x y : Value} (h : SameContainer x y) : SameContainer y x :=
  h.imp And.symm And.symm

theorem SameContainer.trans {x y z : Value} (h : SameContainer x y) (h' : SameContainer y z) :
    SameContainer x z := by
  rcases h with ⟨hx, hy⟩ | ⟨hx, hy⟩ <;> rcases h' with ⟨hy', hz⟩ | ⟨hy', hz⟩
  · exact Or.inl ⟨hx, hz⟩
  · rw [hy] at hy'
    cases hy'
  · rw [hy] at hy'
    cases hy'
  · exact Or.inr ⟨hx, hz⟩

theorem sameContainer_mergeInto_left (x y z : Value) :
    SameContainer (y.mergeInto x) z ↔ SameContainer y z := by
  simp [SameContainer, Value.kind_mergeInto]

theorem sameContainer_mergeInto_right (x y z : Value) :
    SameContainer z (y.mergeInto x) ↔ SameContainer z y := by
  simp [SameContainer, Value.kind_mergeInto]

namespace Document

theorem keys_merge_assoc (d e f : Document) (he : (keys e).Nodup) (hf : (keys f).Nodup) :
    keys (merge (merge d e) f) = keys (merge d (merge e f)) := by
  rw [keys_merge _ f hf, keys_merge d e he, keys_merge d _ (nodup_keys_merge he hf),
    keys_merge e f hf, List.filter_append, List.filter_filter, List.append_assoc]
  congr 2
  apply List.filter_congr
  intro k _
  by_cases hd : k ∈ keys d <;> simp [hd]

/-- Three documents regroup when the values do at every key that all three hold. -/
theorem merge_assoc_iff {d e f : Document} (hd : (keys d).Nodup) (he : (keys e).Nodup)
    (hf : (keys f).Nodup) :
    merge (merge d e) f = merge d (merge e f) ↔
      ∀ k x y z, get? d k = some x → get? e k = some y → get? f k = some z →
        z.mergeInto (y.mergeInto x) = (z.mergeInto y).mergeInto x := by
  have hef := nodup_keys_merge he hf
  constructor
  · intro h k x y z hx hy hz
    have hk := congrArg (get? · k) h
    rw [get?_merge_of_some _ hf hz, get?_merge_of_some _ he hy, hx,
      get?_merge_of_some _ hef (get?_merge_of_some e hf hz), hy, hx] at hk
    exact Option.some.inj hk
  · intro h
    apply ext (nodup_keys_merge (nodup_keys_merge hd he) hf) (keys_merge_assoc d e f he hf)
    intro k
    cases hz : get? f k with
    | none =>
      rw [get?_merge_of_none _ hf hz]
      have hk : get? (merge e f) k = get? e k := get?_merge_of_none e hf hz
      rw [get?_merge d e he, get?_merge d _ hef, hk]
    | some z =>
      rw [get?_merge_of_some _ hf hz, get?_merge_of_some _ hef (get?_merge_of_some e hf hz)]
      cases hy : get? e k with
      | none =>
        rw [get?_merge_of_none _ he hy]
        rfl
      | some y =>
        rw [get?_merge_of_some _ he hy]
        cases hx : get? d k with
        | none => rfl
        | some x => exact congrArg some (h k x y z hx hy hz)

end Document

namespace Value

/-- The condition on three values that are merged one after the other. -/
inductive Regroups : Value → Value → Value → Prop where
  /-- Three documents answer for each key that all of them hold. -/
  | documents (d e f : Document)
      (h : ∀ k x y z, Document.get? d k = some x → Document.get? e k = some y →
        Document.get? f k = some z → Regroups x y z) :
      Regroups (document d) (document e) (document f)
  /-- A container is overwritten and set again: the last value must leave no trace of the first. -/
  | reset (a b c : Value) (hac : SameContainer a c) (hab : ¬ SameContainer a b)
      (h : c.mergeInto a = c) : Regroups a b c
  /-- Every other case is free. -/
  | free (a b c : Value)
      (hd : ¬ (a.kind = .object ∧ b.kind = .object ∧ c.kind = .object))
      (h : SameContainer a c → SameContainer a b) : Regroups a b c

/-- Where the middle value is not of the kind of the last one, the condition is about the outer
two alone. -/
theorem regroups_of_overwritten {a b c : Value} (hbc : ¬ SameContainer b c) :
    Regroups a b c ↔ c.mergeInto a = c := by
  constructor
  · intro h
    cases h with
    | documents d e f _ => exact absurd (Or.inl ⟨rfl, rfl⟩) hbc
    | reset _ _ _ _ _ h => exact h
    | free _ _ _ _ h =>
      apply mergeInto_of_not_sameContainer
      intro hac
      exact hbc ((h hac).symm.trans hac)
  · intro h
    by_cases hac : SameContainer a c
    · exact .reset a b c hac (fun hab => hbc (hab.symm.trans hac)) h
    · refine .free a b c ?_ fun hac' => absurd hac' hac
      rintro ⟨ha, -, hc⟩
      exact hac (Or.inl ⟨ha, hc⟩)

theorem regroups_documents_iff {d e f : Document} :
    Regroups (document d) (document e) (document f) ↔
      ∀ k x y z, Document.get? d k = some x → Document.get? e k = some y →
        Document.get? f k = some z → Regroups x y z := by
  constructor
  · intro h
    cases h with
    | documents _ _ _ h => exact h
    | reset _ _ _ _ hab _ => exact absurd (Or.inl ⟨rfl, rfl⟩) hab
    | free _ _ _ hd _ => exact absurd ⟨rfl, rfl, rfl⟩ hd
  · exact .documents d e f

theorem mergeInto_assoc_iff {a b c : Value} (ha : a.Distinct) (hb : b.Distinct)
    (hc : c.Distinct) :
    c.mergeInto (b.mergeInto a) = (c.mergeInto b).mergeInto a ↔ Regroups a b c := by
  induction c using induction_on_children generalizing a b with
  | step c ih =>
    by_cases hbc : SameContainer b c
    · by_cases hab : SameContainer a b
      · rcases hab with ⟨hak, hbk⟩ | ⟨hak, hbk⟩
        · have hck : c.kind = .object := by simpa [SameContainer, hbk] using hbc
          obtain ⟨d, rfl⟩ := eq_document_of_kind hak
          obtain ⟨e, rfl⟩ := eq_document_of_kind hbk
          obtain ⟨f, rfl⟩ := eq_document_of_kind hck
          simp only [mergeInto_document, document.injEq]
          rw [Document.merge_assoc_iff ha.keys hb.keys hc.keys, regroups_documents_iff]
          have hk : ∀ k x y z, Document.get? d k = some x → Document.get? e k = some y →
              Document.get? f k = some z →
              (z.mergeInto (y.mergeInto x) = (z.mergeInto y).mergeInto x ↔ Regroups x y z) :=
            fun k x y z hx hy hz => ih z (mem_children_of_get? hz) (ha.get? hx) (hb.get? hy)
              (hc.get? hz)
          constructor
          · intro h k x y z hx hy hz
            exact (hk k x y z hx hy hz).1 (h k x y z hx hy hz)
          · intro h k x y z hx hy hz
            exact (hk k x y z hx hy hz).2 (h k x y z hx hy hz)
        · have hck : c.kind = .array := by simpa [SameContainer, hbk] using hbc
          obtain ⟨xs, rfl⟩ := eq_array_of_kind hak
          obtain ⟨ys, rfl⟩ := eq_array_of_kind hbk
          obtain ⟨zs, rfl⟩ := eq_array_of_kind hck
          refine iff_of_true ?_ (.free _ _ _ (by simp) fun _ => Or.inr ⟨rfl, rfl⟩)
          simp
      · -- the first value is gone before the last one comes, in either grouping
        have hac : ¬ SameContainer a c := fun h => hab (h.trans hbc.symm)
        have hright : (c.mergeInto b).mergeInto a = c.mergeInto b := by
          apply mergeInto_of_not_sameContainer
          rwa [sameContainer_mergeInto_right]
        refine iff_of_true ?_ (.free a b c ?_ fun h => absurd h hac)
        · rw [mergeInto_of_not_sameContainer hab, hright]
        · rintro ⟨hak, hbk, -⟩
          exact hab (Or.inl ⟨hak, hbk⟩)
    · have hleft : c.mergeInto (b.mergeInto a) = c := by
        apply mergeInto_of_not_sameContainer
        rwa [sameContainer_mergeInto_left]
      rw [hleft, mergeInto_of_not_sameContainer hbc, regroups_of_overwritten hbc]
      exact eq_comm

/-- Three values regroup when at no path a container is overwritten by another kind and then set
again. -/
theorem regroups_of_never_reset {a b c : Value}
    (h : ∀ p x y z, a.at? p = some x → b.at? p = some y → c.at? p = some z →
      SameContainer x z → SameContainer x y) : Regroups a b c := by
  induction c using induction_on_children generalizing a b with
  | step c ih =>
    have htop : SameContainer a c → SameContainer a b := h [] a b c rfl rfl rfl
    by_cases hd : a.kind = .object ∧ b.kind = .object ∧ c.kind = .object
    · obtain ⟨hak, hbk, hck⟩ := hd
      obtain ⟨d, rfl⟩ := eq_document_of_kind hak
      obtain ⟨e, rfl⟩ := eq_document_of_kind hbk
      obtain ⟨f, rfl⟩ := eq_document_of_kind hck
      refine .documents d e f fun k x y z hx hy hz => ih z (mem_children_of_get? hz) ?_
      intro p x' y' z' hx' hy' hz'
      apply h (k :: p)
      · rwa [at?_cons_of_some (v := document d) hx]
      · rwa [at?_cons_of_some (v := document e) hy]
      · rwa [at?_cons_of_some (v := document f) hz]
    · exact .free a b c hd htop

end Value

namespace Filter

/-- Three filters can be merged in either grouping exactly when their documents regroup, and in
particular when no container is overwritten by another kind and then set again. -/
theorem merge_grouping_iff (a b c : Filter) (ha : a.toValue.Distinct) (hb : b.toValue.Distinct)
    (hc : c.toValue.Distinct) :
    let leftFirst := ((a.perform (.merge b)).filter.perform (.merge c)).filter
    let rightFirst := (a.perform (.merge (b.perform (.merge c)).filter)).filter
    (leftFirst = rightFirst ↔ Value.Regroups a.toValue b.toValue c.toValue) ∧
    ((∀ p x y z, a.toValue.at? p = some x → b.toValue.at? p = some y → c.toValue.at? p = some z →
      SameContainer x z → SameContainer x y) → leftFirst = rightFirst) := by
  intro leftFirst rightFirst
  have hl : leftFirst.toValue = c.toValue.mergeInto (b.toValue.mergeInto a.toValue) := by
    rw [toValue_perform_merge, toValue_perform_merge]
  have hr : rightFirst.toValue = (c.toValue.mergeInto b.toValue).mergeInto a.toValue := by
    rw [toValue_perform_merge, toValue_perform_merge]
  have hiff : leftFirst = rightFirst ↔ Value.Regroups a.toValue b.toValue c.toValue := by
    rw [← Value.mergeInto_assoc_iff ha hb hc, ← hl, ← hr]
    constructor
    · intro h
      rw [h]
    · intro h
      exact congrArg Filter.mk (Value.document.inj h)
  refine ⟨hiff, fun h => ?_⟩
  rw [hiff]
  exact Value.regroups_of_never_reset h

/-- A number overwrites a document, and a document is set again: the grouping does not matter if
the last document has the keys of the first one, and it does if the keys differ. -/
theorem merge_grouping_iff_number_between :
    let a : Filter := ⟨[("x", .document [("p", .int32 1)])]⟩
    let b : Filter := ⟨[("x", .int32 5)]⟩
    let c : Filter := ⟨[("x", .document [("p", .int32 2)])]⟩
    let c' : Filter := ⟨[("x", .document [("q", .int32 2)])]⟩
    a.toValue.Distinct ∧ b.toValue.Distinct ∧ c.toValue.Distinct ∧ c'.toValue.Distinct ∧
      ((a.perform (.merge b)).filter.perform (.merge c)).filter =
        (a.perform (.merge (b.perform (.merge c)).filter)).filter ∧
      ((a.perform (.merge b)).filter.perform (.merge c')).filter ≠
        (a.perform (.merge (b.perform (.merge c')).filter)).filter := by
  intro a b c c'
  have hn (n : Int32) : (Value.int32 n).Distinct := Value.distinct_of_leaf rfl rfl
  have ha : a.toValue.Distinct := by simp [a, toValue, hn]
  have hb : b.toValue.Distinct := by simp [b, toValue, hn]
  have hc : c.toValue.Distinct := by simp [c, toValue, hn]
  have hc' : c'.toValue.Distinct := by simp [c', toValue, hn]
  refine ⟨ha, hb, hc, hc', (merge_grouping_iff a b c ha hb hc).1.2 ?_, ?_⟩
  · refine .documents _ _ _ fun k x y z hx hy hz => ?_
    have hk : "x" = k := by
      by_contra hne
      simp [b, Document.get?, hne] at hy
    subst hk
    obtain rfl := Option.some.inj hx
    obtain rfl := Option.some.inj hy
    obtain rfl := Option.some.inj hz
    rw [Value.regroups_of_overwritten (by simp [SameContainer, Value.kind])]
    rfl
  · intro h
    have hr := (merge_grouping_iff a b c' ha hb hc').1.1 h
    have hx := Value.regroups_documents_iff.1 hr "x" _ _ _ rfl rfl rfl
    rw [Value.regroups_of_overwritten (by simp [SameContainer, Value.kind]), Value.mergeInto_document] at hx
    have hlen := congrArg List.length (Value.document.inj hx)
    exact absurd hlen (by decide)

end Filter
end DocFilter
