import DocFilter.Proofs.Calls.Funnel
import DocFilter.Proofs.Negation.Classes

/-! A filter is negated field by field, so what repeated negations leave is read off value by value.
The first main statement says when two negations cancel and what is left where they do not; the
second one, that negating distributes over merging as long as the values of a shared field are of
one class. -/

namespace DocFilter

namespace Document

def mapValues (change : Value → Value) (d : Document) : Document :=
  d.map fun entry => (entry.1, change entry.2)

@[simp] theorem keys_mapValues (change : Value → Value) (d : Document) :
    keys (mapValues change d) = keys d := by
  rw [keys, mapValues, List.map_map]
  rfl

theorem get?_mapValues (change : Value → Value) (d : Document) (k : String) :
    get? (mapValues change d) k = (get? d k).map change := by
  induction d with
  | nil => rfl
  | cons entry rest ih =>
    obtain ⟨key, value⟩ := entry
    have hc : mapValues change ((key, value) :: rest) =
        (key, change value) :: mapValues change rest := rfl
    rw [hc, get?, get?, ih]
    split_ifs <;> rfl

theorem mapValues_mapValues (f g : Value → Value) (d : Document) :
    mapValues f (mapValues g d) = mapValues (fun v => f (g v)) d := by
  rw [mapValues, mapValues, List.map_map]
  rfl

theorem mapValues_congr_iff (f g : Value → Value) (d : Document) :
    mapValues f d = mapValues g d ↔ ∀ entry ∈ d, f entry.2 = g entry.2 := by
  rw [mapValues, mapValues, List.map_inj_left]
  simp

theorem mapValues_eq_self_iff (f : Value → Value) (d : Document) :
    mapValues f d = d ↔ ∀ entry ∈ d, f entry.2 = entry.2 := by
  have hid : mapValues (fun v => v) d = d := List.map_id d
  have hcongr := mapValues_congr_iff f (fun v => v) d
  rwa [hid] at hcongr

/-- A change that respects the meeting of two values can be made before or after a merge. -/
theorem mapValues_merge {change : Value → Value} {d e : Document} (hd : (keys d).Nodup)
    (he : (keys e).Nodup)
    (h : ∀ k v w, get? d k = some v → get? e k = some w →
      change (w.mergeInto v) = (change w).mergeInto (change v)) :
    mapValues change (merge d e) = merge (mapValues change d) (mapValues change e) := by
  have he' : (keys (mapValues change e)).Nodup := by rwa [keys_mapValues]
  apply ext
  · rw [keys_mapValues]
    exact nodup_keys_merge hd he
  · rw [keys_mapValues, keys_merge d e he, keys_merge _ _ he', keys_mapValues, keys_mapValues]
  · intro k
    rw [get?_mapValues, get?_merge d e he, get?_merge _ _ he', get?_mapValues, get?_mapValues]
    cases hw : get? e k with
    | none => rfl
    | some w =>
      cases hv : get? d k with
      | none => rfl
      | some v => exact congrArg some (h k v w hv hw)

end Document

namespace Value

/-- A value that is no fragment comes back under two operators. -/
theorem negation_negation_of_differ {v : Value} (h : ¬ v.IsFragment) :
    v.negation.2.negation.2 = fragment .not (fragment .ne v) := by
  have hf : (fragment .ne v).IsFragment := isFragment_fragment .ne v
  have hl : ¬ (fragment .ne v).IsLoneNot := not_isLoneNot_fragment (by decide) v
  rw [negation_of_differ h, negation_of_wrap hf hl]

theorem fragment_not_not_ne (v : Value) : fragment .not (fragment .not v) ≠ v := by
  intro h
  have hs := congrArg sizeOf h
  simp only [fragment, document.sizeOf_spec, List.cons.sizeOf_spec, Prod.mk.sizeOf_spec] at hs
  omega

/-- Wrapping what has been unwrapped gives the value back unless the inner value is no fragment,
when it is differed from, or a lone `$not` itself, when it loses that one as well. -/
theorem negation_eq_fragment_not_iff (w : Value) :
    w.negation.2 = fragment .not w ↔ w.IsFragment ∧ ¬ w.IsLoneNot := by
  rcases w.isLoneNot_or_wrap_or_differ with hl | ⟨hf, hl⟩ | hf
  · obtain ⟨u, rfl⟩ := id hl
    simp only [negation_fragment_not, hl, not_true_eq_false, and_false, iff_false]
    exact fun h => fragment_not_not_ne u h.symm
  · simp [negation_of_wrap hf hl, hf, hl]
  · simp only [negation_of_differ hf, hf, false_and, iff_false]
    intro h
    simp [fragment, Keyword.text] at h

theorem negation_negation_eq_self_iff (v : Value) :
    v.negation.2.negation.2 = v ↔
      v.IsFragment ∧ ∀ w, v = fragment .not w → w.IsFragment ∧ ¬ w.IsLoneNot := by
  rcases v.isLoneNot_or_wrap_or_differ with hl | ⟨hf, hl⟩ | hf
  · obtain ⟨w, rfl⟩ := id hl
    have hinj : ∀ u, fragment .not w = fragment .not u ↔ w = u := by simp [fragment]
    simp [hl.isFragment, hinj, negation_eq_fragment_not_iff]
  · have hw : ∀ w, v ≠ fragment .not w := fun w h => hl ⟨w, h⟩
    simp [negation_of_wrap hf hl, hf, hw]
  · simp only [negation_negation_of_differ hf, hf, false_and, iff_false]
    intro h
    exact hf (h ▸ isFragment_fragment .not _)

theorem negation_thrice {v : Value}
    (h : ∀ w, v = fragment .not w → w.IsFragment ∧ ¬ w.IsLoneNot) :
    v.negation.2.negation.2.negation.2 = v.negation.2 := by
  by_cases hf : v.IsFragment
  · rw [(negation_negation_eq_self_iff v).2 ⟨hf, h⟩]
  · rw [negation_negation_of_differ hf, negation_fragment_not, negation_of_differ hf]

end Value

namespace Filter

def negated (f : Filter) : Filter := (empty.perform (.negate f)).filter

theorem document_perform_negate (f g : Filter) :
    (f.perform (.negate g)).filter.document =
      Document.merge f.document (Document.mapValues (fun v => v.negation.2) g.document) := by
  rw [(perform_of_ok (c := .negate g) rfl f).1, document_addAll, Call.negations, List.map_map]
  rfl

theorem document_negated {f : Filter} (hf : (Document.keys f.document).Nodup) :
    f.negated.document = Document.mapValues (fun v => v.negation.2) f.document := by
  rw [negated, document_perform_negate]
  apply Document.merge_empty
  rwa [Document.keys_mapValues]

theorem keys_negated {f : Filter} (hf : (Document.keys f.document).Nodup) :
    Document.keys f.negated.document = Document.keys f.document := by
  rw [document_negated hf, Document.keys_mapValues]

theorem document_negated_negated {f : Filter} (hf : (Document.keys f.document).Nodup) :
    f.negated.negated.document =
      Document.mapValues (fun v => v.negation.2.negation.2) f.document := by
  rw [document_negated (by rwa [keys_negated hf]), document_negated hf,
    Document.mapValues_mapValues]

theorem ext_document {f g : Filter} (h : f.document = g.document) : f = g :=
  congrArg Filter.mk h

/-- A negation keeps the fields. Two of them cancel exactly where every value is a fragment, and no
lone `$not` stands above anything else than a fragment with another operator; a value that is no
fragment is kept under `$not` and `$ne`. After the first negation a further two change nothing, if
the lone `$not` are in order. -/
theorem negated_repeatedly (e : Filter) (he : (Document.keys e.document).Nodup) :
    Document.keys e.negated.document = Document.keys e.document ∧
    (e.negated.negated = e ↔
      ∀ entry ∈ e.document, entry.2.IsFragment ∧
        ∀ w, entry.2 = fragment .not w → w.IsFragment ∧ ¬ w.IsLoneNot) ∧
    (∀ k v, Document.get? e.document k = some v → ¬ v.IsFragment →
      Document.get? e.negated.negated.document k = some (fragment .not (fragment .ne v))) ∧
    ((∀ entry ∈ e.document, ∀ w, entry.2 = fragment .not w → w.IsFragment ∧ ¬ w.IsLoneNot) →
      e.negated.negated.negated = e.negated) := by
  have hn : (Document.keys e.negated.document).Nodup := by rwa [keys_negated he]
  refine ⟨keys_negated he, ?_, ?_, ?_⟩
  · have htwice : e.negated.negated = e ↔ e.negated.negated.document = e.document :=
      ⟨congrArg document, ext_document⟩
    rw [htwice, document_negated_negated he, Document.mapValues_eq_self_iff]
    simp only [Value.negation_negation_eq_self_iff]
  · intro k v hv hf
    rw [document_negated_negated he, Document.get?_mapValues, hv, Option.map_some,
      Value.negation_negation_of_differ hf]
  · intro h
    apply ext_document
    rw [document_negated_negated hn, document_negated he, Document.mapValues_mapValues,
      Document.mapValues_congr_iff]
    intro entry hentry
    exact Value.negation_thrice (h entry hentry)

/-- A comparison and a lone `$not` over a fragment come back; a string and a lone `$not` over another
one do not, and of the string it is known what comes back. -/
theorem negated_repeatedly_mixed :
    let e : Filter := ⟨[("age", .document [("$gt", .int32 5)]),
      ("tags", .document [("$not", .document [("$all", .array [.string "x"])])])]⟩
    let e' : Filter := ⟨[("status", .string "active"),
      ("age", .document [("$not", .document [("$not", .document [("$gt", .int32 5)])])])]⟩
    (Document.keys e.document).Nodup ∧ (Document.keys e'.document).Nodup ∧
      e.negated.negated = e ∧ e.negated.negated.negated = e.negated ∧
      e'.negated.negated ≠ e' ∧
      Document.get? e'.negated.negated.document "status" =
        some (fragment .not (fragment .ne (.string "active"))) := by
  intro e e'
  have he : (Document.keys e.document).Nodup := by decide
  have he' : (Document.keys e'.document).Nodup := by decide
  have hgt : (fragment .gt (.int32 5)).IsFragment := Value.isFragment_fragment .gt _
  have hall : (fragment .all (.array [.string "x"])).IsFragment :=
    Value.isFragment_fragment .all _
  have hnot : (fragment .not (fragment .all (.array [.string "x"]))).IsFragment :=
    Value.isFragment_fragment .not _
  have hlone : ¬ (fragment .all (.array [.string "x"])).IsLoneNot :=
    Value.not_isLoneNot_fragment (by decide) _
  have hback : ∀ entry ∈ e.document, entry.2.IsFragment ∧
      ∀ w, entry.2 = fragment .not w → w.IsFragment ∧ ¬ w.IsLoneNot := by
    intro entry hentry
    rcases List.mem_cons.1 hentry with rfl | hentry
    · refine ⟨hgt, fun w hw => ?_⟩
      simp [fragment, Keyword.text] at hw
    · obtain rfl := List.mem_singleton.1 hentry
      refine ⟨hnot, fun w hw => ?_⟩
      obtain rfl : fragment .all (.array [.string "x"]) = w := by
        simpa [fragment, Keyword.text] using hw
      exact ⟨hall, hlone⟩
  have hstring : ¬ (Value.string "active").IsFragment :=
    Value.not_isFragment_of_kind (by simp [Value.kind])
  obtain ⟨-, htwice, -, hthrice⟩ := negated_repeatedly e he
  obtain ⟨-, htwice', hdiffer, -⟩ := negated_repeatedly e' he'
  refine ⟨he, he', htwice.2 hback, hthrice fun entry h => (hback entry h).2, ?_,
    hdiffer "status" _ rfl hstring⟩
  intro h
  exact hstring (htwice'.1 h ("status", .string "active") (by simp [e'])).1

/-- Negating what two filters merge into is negating one after the other, if every field that both
of them constrain holds values of one class. -/
theorem negated_merge (a b : Filter) (ha : (Document.keys a.document).Nodup)
    (hb : b.toValue.Distinct)
    (h : ∀ k v w, Document.get? a.document k = some v → Document.get? b.document k = some w →
      ∃ n, v.InClass n ∧ w.InClass n) :
    (a.perform (.merge b)).filter.negated = (a.negated.perform (.negate b)).filter := by
  have hm : (Document.keys (a.perform (.merge b)).filter.document).Nodup := by
    rw [document_perform_merge]
    exact Document.nodup_keys_merge ha hb.keys
  apply ext_document
  rw [document_negated hm, document_perform_negate, document_negated ha, document_perform_merge]
  apply Document.mapValues_merge ha hb.keys
  intro k v w hv hw
  obtain ⟨n, hvn, hwn⟩ := h k v w hv hw
  exact Value.negation_mergeInto hvn hwn (hb.get? hw)

/-- Two lone `$not`, two comparisons and two lists meet. Where a string meets a comparison the two
orders differ, so the classes matter. -/
theorem negated_merge_three_classes :
    let a : Filter := ⟨[("tags", .document [("$not", .document [("$all", .array [.int32 1])])]),
      ("age", .document [("$gt", .int32 5)]), ("roles", .array [.int32 1])]⟩
    let b : Filter := ⟨[("roles", .array [.int32 2]), ("age", .document [("$lt", .int32 9)]),
      ("name", .null), ("tags", .document [("$not", .document [("$all", .array [.int32 2])])])]⟩
    let c : Filter := ⟨[("age", .string "old")]⟩
    (Document.keys a.document).Nodup ∧ b.toValue.Distinct ∧
      (∀ k v w, Document.get? a.document k = some v → Document.get? b.document k = some w →
        ∃ n, v.InClass n ∧ w.InClass n) ∧
      (a.perform (.merge b)).filter.negated = (a.negated.perform (.negate b)).filter ∧
      (a.negated.perform (.negate b)).filter.document =
        [("tags", .document [("$all", .array [.int32 1, .int32 2])]),
          ("age", .document [("$not", .document [("$gt", .int32 5), ("$lt", .int32 9)])]),
          ("roles", .document [("$ne", .array [.int32 1, .int32 2])]),
          ("name", .document [("$ne", .null)])] ∧
      Document.get? (a.perform (.merge c)).filter.negated.document "age" =
        some (.document [("$ne", .string "old")]) ∧
      Document.get? (a.negated.perform (.negate c)).filter.document "age" =
        some (.document [("$not", .document [("$gt", .int32 5)]), ("$ne", .string "old")]) := by
  intro a b c
  have hn (n : Int32) : (Value.int32 n).Distinct := Value.distinct_of_leaf rfl rfl
  have h0 : Value.null.Distinct := Value.distinct_of_leaf rfl rfl
  have ha : (Document.keys a.document).Nodup := by decide
  have hb : b.toValue.Distinct := by simp [b, toValue, hn, h0]
  have hclass : ∀ k v w, Document.get? a.document k = some v →
      Document.get? b.document k = some w → ∃ n, v.InClass n ∧ w.InClass n := by
    intro k v w hv hw
    refine ⟨v.negation.1, (Value.inClass_iff v _).2 rfl, (Value.inClass_iff w _).2 ?_⟩
    have hk : k = "tags" ∨ k = "age" ∨ k = "roles" := by
      simpa [a, Document.keys] using (List.mem_map.2 ⟨_, Document.mem_of_get? hv, rfl⟩ :
        k ∈ Document.keys a.document)
    rcases hk with rfl | rfl | rfl <;> cases hv <;> cases hw <;> rfl
  exact ⟨ha, hb, hclass, negated_merge a b ha hb hclass, rfl, rfl, rfl⟩

end Filter
end DocFilter
