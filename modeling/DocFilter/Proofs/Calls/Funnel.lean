import DocFilter.Proofs.Merge.Rule

/-! Every call acts on a filter by merging. Apart from `extend`, which may name a field twice, a
call names each field once, so what it does to any filter is to merge the document that it would
make of an empty one. -/

namespace DocFilter

namespace Filter

theorem perform_of_ok {c : Call} {cs : List Constraint} (h : c.constraints = .ok cs)
    (f : Filter) : (f.perform c).filter = f.addAll cs ∧ (f.perform c).refusal = none := by
  have ha : ∃ aside, c.aside = .ok aside := by
    cases c with
    | noElements field condition =>
      cases hd : condition.document with
      | ok d => exact ⟨_, by simp only [Call.aside, hd]; rfl⟩
      | error e => simp [Call.constraints, hd] at h
    | _ => exact ⟨_, rfl⟩
  obtain ⟨aside, ha⟩ := ha
  simp [perform, ha, h]

theorem perform_of_error {c : Call} {e : MalformedArgument} (h : c.constraints = .error e)
    (f : Filter) : (f.perform c).filter = f ∧ (f.perform c).refusal = some e := by
  cases c with
  | noElements field condition =>
    cases hd : condition.document with
    | ok d => simp [Call.constraints, hd] at h
    | error e' =>
      have he : e' = e := by simpa [Call.constraints, hd] using h
      simp [perform, Call.aside, hd, he]
  | elements field condition => simp [perform, Call.aside, h]
  | _ => cases h

theorem filter_perform_of_refused {f : Filter} {c : Call} (h : (f.perform c).refusal ≠ none) :
    (f.perform c).filter = f := by
  cases hc : c.constraints with
  | ok cs => exact absurd (perform_of_ok hc f).2 h
  | error e => exact (perform_of_error hc f).1

theorem refusal_perform_congr (c : Call) (f g : Filter) :
    (f.perform c).refusal = (g.perform c).refusal := by
  cases h : c.constraints with
  | ok cs => rw [(perform_of_ok h f).2, (perform_of_ok h g).2]
  | error e => rw [(perform_of_error h f).2, (perform_of_error h g).2]

end Filter

namespace Call

theorem map_field_negations (f : Filter) :
    (negations f).map Constraint.field = Document.keys f.document := by
  rw [negations, List.map_map]
  rfl

theorem map_field_entries (entries : List (String × Value)) :
    (entries.map Constraint.ofEntry).map Constraint.field = Document.keys entries := by
  rw [List.map_map]
  rfl

/-- A call names every field once, if the filters that it negates or merges hold every key once. -/
theorem nodup_fields {c : Call} {cs : List Constraint} (h : c.constraints = .ok cs)
    (hx : ∀ entries, c ≠ .extend entries)
    (hc : ∀ g, c = .negate g ∨ c = .merge g → (Document.keys g.document).Nodup) :
    (cs.map Constraint.field).Nodup := by
  cases c with
  | negate g =>
    cases h
    rw [map_field_negations]
    exact hc g (Or.inl rfl)
  | merge g =>
    cases h
    rw [map_field_entries]
    exact hc g (Or.inr rfl)
  | extend entries => exact absurd rfl (hx entries)
  | elements field condition =>
    cases hd : condition.document with
    | ok d =>
      simp only [constraints, hd] at h
      cases h
      simp
    | error e => simp [constraints, hd] at h
  | noElements field condition =>
    cases hd : condition.document with
    | ok d =>
      simp only [constraints, hd] at h
      cases h
      rw [map_field_negations]
      simp [Filter.add, Filter.empty, Document.add, Document.alter]
    | error e => simp [constraints, hd] at h
  | _ =>
    cases h
    simp

end Call

namespace Filter

/-- What a run of constraints on different fields makes of an empty filter is the list of them. -/
theorem document_addAll_empty {cs : List Constraint} (h : (cs.map Constraint.field).Nodup) :
    (empty.addAll cs).document = cs.map fun c => (c.field, c.value) := by
  rw [document_addAll]
  apply Document.merge_empty
  have hk : Document.keys (cs.map fun c => (c.field, c.value)) = cs.map Constraint.field := by
    rw [Document.keys, List.map_map]
    rfl
  rwa [hk]

/-- A call is refused on every filter or on none, and if it is not, it merges into the filter what
it makes of an empty one. -/
theorem perform_eq_merge_of_empty (x : Filter) (c : Call) (hx : ∀ entries, c ≠ .extend entries)
    (hc : ∀ g, c = .negate g ∨ c = .merge g → (Document.keys g.document).Nodup) :
    (x.perform c).refusal = (empty.perform c).refusal ∧
    ((x.perform c).refusal = none →
      (x.perform c).filter = (x.perform (.merge (empty.perform c).filter)).filter) := by
  refine ⟨refusal_perform_congr c x empty, fun hok => ?_⟩
  cases h : c.constraints with
  | error e =>
    rw [(perform_of_error h x).2] at hok
    cases hok
  | ok cs =>
    have hd : (x.addAll cs).document =
        (x.perform (.merge (empty.addAll cs))).filter.document := by
      rw [document_addAll, document_perform_merge,
        document_addAll_empty (Call.nodup_fields h hx hc)]
    rw [(perform_of_ok h x).1, (perform_of_ok h empty).1]
    exact congrArg Filter.mk hd

/-- A negation of two fields, one of which is constrained already. -/
theorem perform_eq_merge_of_empty_negated :
    let x : Filter := ⟨[("age", .document [("$gt", .int32 3)])]⟩
    let c : Call := .negate ⟨[("status", .string "active"), ("age", .document [("$lt", .int32 18)])]⟩
    (∀ entries, c ≠ .extend entries) ∧
      (∀ g, c = .negate g ∨ c = .merge g → (Document.keys g.document).Nodup) ∧
      (x.perform c).refusal = none ∧
      (x.perform c).filter = (x.perform (.merge (empty.perform c).filter)).filter ∧
      (x.perform c).filter.document =
        [("age", .document [("$gt", .int32 3), ("$not", .document [("$lt", .int32 18)])]),
          ("status", .document [("$ne", .string "active")])] := by
  intro x c
  have hx : ∀ entries, c ≠ .extend entries := by simp [c]
  have hc : ∀ g, c = .negate g ∨ c = .merge g → (Document.keys g.document).Nodup := by simp [c]
  exact ⟨hx, hc, rfl, (perform_eq_merge_of_empty x c hx hc).2 rfl, rfl⟩

end Filter
end DocFilter
