import DocFilter.Proofs.Calls.Reorder
import DocFilter.Proofs.Negation.Classes
import DocFilter.Proofs.Script.History

/-! What calls do to keys. A call leaves the keys of the filter where they are and adds new ones
behind them, whether it is refused or not. And if none of its arguments holds a document with a
repeated key, the filter does not come to hold one either, at any depth. -/

namespace DocFilter

namespace Value

section Leaves

@[simp] theorem distinct_double (x : Double) : (double x).Distinct := distinct_of_leaf rfl rfl

@[simp] theorem distinct_string (text : String) : (string text).Distinct := distinct_of_leaf rfl rfl

@[simp] theorem distinct_null : null.Distinct := distinct_of_leaf rfl rfl

@[simp] theorem distinct_bool (b : Bool) : (bool b).Distinct := distinct_of_leaf rfl rfl

@[simp] theorem distinct_int32 (n : Int32) : (int32 n).Distinct := distinct_of_leaf rfl rfl

@[simp] theorem distinct_int64 (n : Int64) : (int64 n).Distinct := distinct_of_leaf rfl rfl

end Leaves

@[simp] theorem distinct_fragment (k : Keyword) (v : Value) :
    (fragment k v).Distinct ↔ v.Distinct :=
  distinct_singleton_iff (k.text, v)

theorem Distinct.negation {v : Value} (hv : v.Distinct) : v.negation.2.Distinct := by
  rcases v.isLoneNot_or_wrap_or_differ with hl | ⟨hf, hl⟩ | hf
  · obtain ⟨w, rfl⟩ := hl
    simpa using hv
  · simpa [negation_of_wrap hf hl] using hv
  · simpa [negation_of_differ hf] using hv

end Value

section Geometry

@[simp] theorem distinct_position (p : Point) : p.position.Distinct := by
  simp [Point.position]

@[simp] theorem distinct_positions (points : List Point) : (positions points).Distinct := by
  simp [positions]

theorem Shape.distinct_toDocument (s : Shape) : (Value.document s.toDocument).Distinct := by
  have hc : s.coordinates.Distinct := by
    cases s <;> simp [coordinates]
  simp [toDocument, hc]

theorem Region.distinct_fragment (region : Region) : region.fragment.Distinct := by
  cases region with
  | shape s => simpa [Region.fragment] using s.distinct_toDocument
  | _ => simp [Region.fragment]

theorem distinct_nearFragment (spherical : Bool) (p : Point) (distance : Distance) :
    (nearFragment spherical p distance).Distinct := by
  have hp := (Shape.point p).distinct_toDocument
  rcases hb : distance.bounds with ⟨least, greatest⟩
  cases least <;> cases greatest <;>
    simpa [nearFragment, hb, Keyword.text] using hp

end Geometry

namespace ElementCondition

def values : ElementCondition → List Value
  | .raw value => [value]
  | _ => []

theorem distinct_document {condition : ElementCondition} {d : Document}
    (h : condition.document = .ok d) (hv : ∀ v ∈ condition.values, v.Distinct)
    (hg : ∀ g ∈ condition.filters, g.toValue.Distinct) : (Value.document d).Distinct := by
  cases condition with
  | finished f =>
    cases h
    exact hg f (List.mem_singleton_self f)
  | deferred build =>
    cases h
    exact hg _ (List.mem_singleton_self _)
  | raw value =>
    cases value with
    | document e =>
      cases h
      exact hv _ (List.mem_singleton_self _)
    | _ => cases h

end ElementCondition

namespace Call

section ElementMatches

variable {condition : ElementCondition} {d : Document} {e : MalformedArgument}

theorem constraints_elements_of_ok (field : String) (h : condition.document = .ok d) :
    (elements field condition).constraints =
      .ok [⟨field, fragment .elemMatch (.document d), none⟩] := by
  simp only [constraints, h]
  rfl

theorem constraints_elements_of_error (field : String) (h : condition.document = .error e) :
    (elements field condition).constraints = .error e := by
  simp only [constraints, h]
  rfl

/-- The match of elements is an operator fragment, so it is wrapped. -/
theorem constraints_noElements_of_ok (field : String) (h : condition.document = .ok d) :
    (noElements field condition).constraints =
      .ok [⟨field, fragment .not (fragment .elemMatch (.document d)), some .wrap⟩] := by
  have hf := Value.isFragment_fragment .elemMatch (.document d)
  have hl := Value.not_isLoneNot_fragment (k := .elemMatch) (by decide) (.document d)
  have hneg : Constraint.ofNegated (field, fragment .elemMatch (.document d)) =
      ⟨field, fragment .not (fragment .elemMatch (.document d)), some .wrap⟩ := by
    simp only [Constraint.ofNegated, Value.negation_of_wrap hf hl]
  rw [← hneg]
  simp only [constraints, h]
  rfl

theorem constraints_noElements_of_error (field : String) (h : condition.document = .error e) :
    (noElements field condition).constraints = .error e := by
  simp only [constraints, h]
  rfl

theorem constraints_elements {field : String} {cs : List Constraint}
    (h : (elements field condition).constraints = .ok cs) :
    ∃ d, condition.document = .ok d ∧
      cs = [⟨field, fragment .elemMatch (.document d), none⟩] := by
  cases hd : condition.document with
  | ok d =>
    rw [constraints_elements_of_ok field hd] at h
    exact ⟨d, rfl, (Except.ok.inj h).symm⟩
  | error e =>
    rw [constraints_elements_of_error field hd] at h
    cases h

theorem constraints_noElements {field : String} {cs : List Constraint}
    (h : (noElements field condition).constraints = .ok cs) :
    ∃ d, condition.document = .ok d ∧
      cs = [⟨field, fragment .not (fragment .elemMatch (.document d)), some .wrap⟩] := by
  cases hd : condition.document with
  | ok d =>
    rw [constraints_noElements_of_ok field hd] at h
    exact ⟨d, rfl, (Except.ok.inj h).symm⟩
  | error e =>
    rw [constraints_noElements_of_error field hd] at h
    cases h

end ElementMatches

def values : Call → List Value
  | .put _ value => [value]
  | .compare _ comparison => [comparison.operand]
  | .all _ values | .noneOf _ values => values
  | .elements _ condition | .noElements _ condition => condition.values
  | .extend entries => entries.map Prod.snd
  | _ => []

/-- No argument holds a document with a repeated key. -/
structure Distinct (c : Call) : Prop where
  values : ∀ v ∈ c.values, v.Distinct
  filters : ∀ g ∈ c.filters, g.toValue.Distinct

theorem distinct_single {field : String} {value : Value} {negation : Option Negation}
    (h : value.Distinct) : ∀ x ∈ [Constraint.mk field value negation], x.value.Distinct :=
  List.forall_mem_singleton.2 h

theorem distinct_entries {g : Filter} (hg : g.toValue.Distinct) :
    ∀ entry ∈ g.document, entry.2.Distinct :=
  fun _ h => ((Value.distinct_document _).1 hg).2 _ (List.mem_map_of_mem h)

theorem distinct_negations {g : Filter} (hg : g.toValue.Distinct) :
    ∀ x ∈ negations g, x.value.Distinct :=
  List.forall_mem_map.2 fun entry h => (distinct_entries hg entry h).negation

theorem distinct_vacantArms (field : String) : ∀ x ∈ vacantArms field, x.value.Distinct := by
  simp [vacantArms]

end Call

namespace Filter

section ElementMatches

variable {condition : ElementCondition} {d : Document}

theorem perform_elements_of_ok (h : condition.document = .ok d) (f : Filter) (field : String) :
    (f.perform (.elements field condition)).filter =
        (f.perform (.put field (fragment .elemMatch (.document d)))).filter ∧
      (f.perform (.elements field condition)).refusal = none :=
  perform_of_ok (Call.constraints_elements_of_ok field h) f

theorem perform_noElements_of_ok (h : condition.document = .ok d) (f : Filter) (field : String) :
    (f.perform (.noElements field condition)).filter =
        (f.perform (.put field (fragment .not (fragment .elemMatch (.document d))))).filter ∧
      (f.perform (.noElements field condition)).refusal = none :=
  perform_of_ok (Call.constraints_noElements_of_ok field h) f

end ElementMatches

theorem distinct_addAll {f : Filter} {cs : List Constraint} (hf : f.toValue.Distinct)
    (hcs : ∀ c ∈ cs, c.value.Distinct) : (f.addAll cs).toValue.Distinct := by
  induction cs generalizing f with
  | nil => exact hf
  | cons c rest ih =>
    obtain ⟨hc, hrest⟩ := List.forall_mem_cons.1 hcs
    exact ih (distinct_perform_put (c := (c.field, c.value)) hf hc) hrest

theorem distinct_empty : empty.toValue.Distinct := by
  simp [empty, toValue]

end Filter

namespace Call

theorem distinct_clause (c : Clause) {filters : List Filter}
    (h : ∀ g ∈ filters, g.toValue.Distinct) : (clause c filters).value.Distinct := by
  simpa [clause] using h

theorem distinct_arms (field : String) :
    ∀ g ∈ (vacantArms field).map fun c => Filter.empty.addAll [c], g.toValue.Distinct :=
  List.forall_mem_map.2 fun c hc =>
    Filter.distinct_addAll Filter.distinct_empty
      (List.forall_mem_singleton.2 (distinct_vacantArms field c hc))

theorem distinct_constraints {c : Call} {cs : List Constraint} (h : c.constraints = .ok cs)
    (hc : c.Distinct) : ∀ x ∈ cs, x.value.Distinct := by
  cases c with
  | put field value =>
    cases h
    exact distinct_single (hc.values value (List.mem_singleton_self value))
  | compare field comparison =>
    cases h
    have hv := hc.values comparison.operand (List.mem_singleton_self _)
    exact distinct_single ((Value.distinct_fragment _ _).2 hv)
  | all field values =>
    cases h
    have hv : (Value.array values).Distinct := (Value.distinct_array values).2 hc.values
    exact distinct_single ((Value.distinct_fragment _ _).2 hv)
  | noneOf field values =>
    cases h
    have hv : (Value.array values).Distinct := (Value.distinct_array values).2 hc.values
    exact distinct_single (by simpa using hv)
  | like field pattern insensitive =>
    cases h
    exact distinct_single (by simp [Keyword.text])
  | elements field condition =>
    obtain ⟨d, hd, rfl⟩ := constraints_elements h
    have hv := condition.distinct_document hd hc.values hc.filters
    exact distinct_single ((Value.distinct_fragment _ _).2 hv)
  | noElements field condition =>
    obtain ⟨d, hd, rfl⟩ := constraints_noElements h
    have hv := condition.distinct_document hd hc.values hc.filters
    have hmatch := (Value.distinct_fragment .elemMatch _).2 hv
    exact distinct_single ((Value.distinct_fragment _ _).2 hmatch)
  | vacant field =>
    cases h
    exact distinct_single (distinct_clause .or (distinct_arms field))
  | notVacant field =>
    cases h
    exact distinct_single (distinct_clause .nor (distinct_arms field))
  | combine clause filters =>
    cases h
    exact distinct_single (distinct_clause clause hc.filters)
  | negate g =>
    cases h
    exact distinct_negations (hc.filters g (List.mem_singleton_self g))
  | merge g =>
    cases h
    exact List.forall_mem_map.2 (distinct_entries (hc.filters g (List.mem_singleton_self g)))
  | extend entries =>
    cases h
    exact List.forall_mem_map.2 fun entry he => hc.values entry.2 (List.mem_map_of_mem he)
  | near spherical field p distance =>
    cases h
    exact distinct_single (distinct_nearFragment spherical p distance)
  | intersects field s =>
    cases h
    exact distinct_single (by simpa using s.distinct_toDocument)
  | within field region =>
    cases h
    exact distinct_single (by simpa using region.distinct_fragment)
  | _ =>
    cases h
    exact distinct_single (by simp)

theorem distinct_aside {c : Call} {cs : List Constraint} (h : c.aside = .ok cs)
    (hc : c.Distinct) : ∀ x ∈ cs, x.value.Distinct := by
  cases c with
  | vacant field | notVacant field =>
    cases h
    exact distinct_vacantArms field
  | noElements field condition =>
    cases hd : condition.document with
    | ok d =>
      simp only [aside, hd] at h
      cases h
      have hv := condition.distinct_document hd hc.values hc.filters
      exact distinct_single ((Value.distinct_fragment _ _).2 hv)
    | error e => simp [aside, hd] at h
  | _ =>
    cases h
    simp

theorem distinct_asideFilters {c : Call} (hc : c.Distinct) :
    ∀ g ∈ c.asideFilters, g.toValue.Distinct := by
  cases h : c.aside with
  | ok cs =>
    rw [asideFilters, h]
    refine List.forall_mem_map.2 fun a ha => ?_
    exact Filter.distinct_addAll Filter.distinct_empty
      (List.forall_mem_singleton.2 (distinct_aside h hc a ha))
  | error e => simp [asideFilters, h]

end Call

namespace Filter

theorem distinct_perform {f : Filter} {c : Call} (hf : f.toValue.Distinct) (hc : c.Distinct) :
    (f.perform c).filter.toValue.Distinct := by
  cases h : c.constraints with
  | ok cs =>
    rw [(perform_of_ok h f).1]
    exact distinct_addAll hf (Call.distinct_constraints h hc)
  | error e =>
    rw [(perform_of_error h f).1]
    exact hf

theorem keys_prefix_addAll (f : Filter) (cs : List Constraint) :
    Document.keys f.document <+: Document.keys (f.addAll cs).document := by
  induction cs generalizing f with
  | nil => exact List.prefix_rfl
  | cons c rest ih =>
    have hadd : Document.keys f.document <+: Document.keys (f.add c.field c.value).document := by
      rw [add, Document.keys_add]
      split_ifs
      · exact List.prefix_rfl
      · exact List.prefix_append _ _
    exact hadd.trans (ih _)

/-- No call removes or moves a key. -/
theorem keys_prefix_perform (f : Filter) (c : Call) :
    Document.keys f.document <+: Document.keys (f.perform c).filter.document := by
  cases h : c.constraints with
  | ok cs =>
    rw [(perform_of_ok h f).1]
    exact keys_prefix_addAll f cs
  | error e =>
    have hsame := (perform_of_error h f).1
    exact hsame.symm ▸ List.prefix_rfl

theorem nodup_keys_addAll {f : Filter} (hf : (Document.keys f.document).Nodup)
    (cs : List Constraint) : (Document.keys (f.addAll cs).document).Nodup := by
  induction cs generalizing f with
  | nil => exact hf
  | cons c rest ih =>
    refine ih ?_
    rw [add, Document.keys_add]
    split_ifs with h
    · exact hf
    · exact hf.append (List.nodup_singleton _) (List.disjoint_singleton.2 h)

/-- A filter that holds every key once goes on to, whatever the arguments of a call hold. -/
theorem nodup_keys_perform {f : Filter} (hf : (Document.keys f.document).Nodup) (c : Call) :
    (Document.keys (f.perform c).filter.document).Nodup := by
  cases h : c.constraints with
  | ok cs =>
    rw [(perform_of_ok h f).1]
    exact nodup_keys_addAll hf cs
  | error e =>
    rw [(perform_of_error h f).1]
    exact hf

def performAll (f : Filter) (cs : List Call) : Filter :=
  cs.foldl (fun g c => (g.perform c).filter) f

theorem performAll_cons (f : Filter) (c : Call) (cs : List Call) :
    f.performAll (c :: cs) = (f.perform c).filter.performAll cs := rfl

theorem performAll_concat (f : Filter) (cs : List Call) (c : Call) :
    f.performAll (cs ++ [c]) = ((f.performAll cs).perform c).filter := by
  simp [performAll]

end Filter
end DocFilter
