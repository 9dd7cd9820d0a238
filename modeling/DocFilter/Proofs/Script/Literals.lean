import DocFilter.Proofs.Calls.Keys

/-! Unique keys in scripts. The values that a script is written with are the only ones that come from
outside; everything else is put together by the script itself. If no document in the former holds a
key twice, none does in any filter of the script at any time, at any depth. -/

namespace DocFilter

theorem Value.distinct_javascriptWithScope (code : String) (scope : Document) :
    (javascriptWithScope code scope).Distinct ↔ (document scope).Distinct := by
  rw [distinct_iff, distinct_iff]
  rfl

namespace Document

/-- A repeated key takes the place of the first one and the value of the last. -/
theorem distinct_insert {d : Document} (hd : (Value.document d).Distinct) (key : String)
    {value : Value} (hv : value.Distinct) : (Value.document (insert d key value)).Distinct := by
  refine Value.distinct_document_of_get? ?_ fun k v hk => ?_
  · rw [insert, keys_alter]
    split_ifs with h
    · exact hd.keys
    · exact hd.keys.append (List.nodup_singleton key) (List.disjoint_singleton.2 h)
  · rw [insert, get?_alter] at hk
    split_ifs at hk with h
    · obtain rfl := Option.some.inj hk
      exact hv
    · exact hd.get? hk

theorem distinct_ofEntries {entries : List (String × Value)} (h : ∀ e ∈ entries, e.2.Distinct) :
    (Value.document (ofEntries entries)).Distinct := by
  suffices hfold : ∀ d, (Value.document d).Distinct → (Value.document
      (entries.foldl (fun d entry => insert d entry.1 entry.2) d)).Distinct from
    hfold [] (by simp)
  induction entries with
  | nil => exact fun d hd => hd
  | cons entry rest ih =>
    obtain ⟨hentry, hrest⟩ := List.forall_mem_cons.1 h
    exact fun d hd => ih hrest _ (distinct_insert hd entry.1 hentry)

end Document

namespace Json

theorem Number.distinct_of_toValue? {n : Number} {v : Value} (h : n.toValue? = some v) :
    v.Distinct := by
  cases n with
  | natural n =>
    rw [Number.toValue?] at h
    split_ifs at h <;> cases h <;> simp
  | negative n => cases h; simp
  | double x => cases h; simp
  | outOfRange => cases h

mutual

theorem distinct_of_toValue? : ∀ (depth : Nat) (j : Json) (v : Value),
    j.toValue? depth = some v → v.Distinct
  | _, .null, v, h => by
    rw [toValue?] at h
    cases h
    simp
  | _, .bool b, v, h => by
    rw [toValue?] at h
    cases h
    simp
  | _, .number literal, v, h => by
    rw [toValue?] at h
    exact Number.distinct_of_toValue? h
  | _, .string text, v, h => by
    rw [toValue?] at h
    obtain ⟨t, -, rfl⟩ := Option.map_eq_some_iff.1 h
    simp
  | 0, .array _, v, h => by
    rw [toValue?] at h
    cases h
  | depth + 1, .array items, v, h => by
    rw [toValue?] at h
    obtain ⟨values, hvalues, rfl⟩ := Option.map_eq_some_iff.1 h
    rw [Value.distinct_array]
    exact distinct_of_toValues? depth items values hvalues
  | 0, .object _, v, h => by
    rw [toValue?] at h
    cases h
  | depth + 1, .object members, v, h => by
    rw [toValue?] at h
    split at h
    · cases h
    · obtain ⟨entries, hentries, rfl⟩ := Option.map_eq_some_iff.1 h
      exact Document.distinct_ofEntries (distinct_of_toEntries? depth members entries hentries)

theorem distinct_of_toValues? : ∀ (depth : Nat) (items : List Json) (values : List Value),
    toValues? depth items = some values → ∀ v ∈ values, v.Distinct
  | _, [], values, h => by
    rw [toValues?] at h
    cases h
    simp
  | depth, item :: rest, values, h => by
    rw [toValues?] at h
    obtain ⟨v, hv, h⟩ := Option.bind_eq_some_iff.1 h
    obtain ⟨vs, hvs, h⟩ := Option.bind_eq_some_iff.1 h
    cases h
    exact List.forall_mem_cons.2 ⟨distinct_of_toValue? depth item v hv,
      distinct_of_toValues? depth rest vs hvs⟩

theorem distinct_of_toEntries? : ∀ (depth : Nat) (members : List (Option String × Json))
    (entries : List (String × Value)), toEntries? depth members = some entries →
      ∀ e ∈ entries, e.2.Distinct
  | _, [], entries, h => by
    rw [toEntries?] at h
    cases h
    simp
  | depth, (name, member) :: rest, entries, h => by
    rw [toEntries?] at h
    obtain ⟨k, -, h⟩ := Option.bind_eq_some_iff.1 h
    obtain ⟨v, hv, h⟩ := Option.bind_eq_some_iff.1 h
    obtain ⟨es, hes, h⟩ := Option.bind_eq_some_iff.1 h
    cases h
    exact List.forall_mem_cons.2 ⟨distinct_of_toValue? depth member v hv,
      distinct_of_toEntries? depth rest es hes⟩

end

end Json

theorem Filter.distinct_of_ofJson? {text : String} {f : Filter} (h : ofJson? text = some f) :
    f.toValue.Distinct := by
  rw [ofJson?] at h
  obtain ⟨j, -, h⟩ := Option.bind_eq_some_iff.1 h
  obtain ⟨v, hv, h⟩ := Option.bind_eq_some_iff.1 h
  cases v with
  | document d =>
    cases h
    exact Json.distinct_of_toValue? _ j _ hv
  | _ => cases h

mutual

def Term.literals : Term → List Value
  | .value v => [v]
  | .array items => termsLiterals items
  | .document entries => entriesLiterals entries
  | .javascriptWithScope _ scope => entriesLiterals scope
  | .filter source => source.literals
  | .relation _ operand => operand.literals
  | .membership _ operands => termsLiterals operands

def termsLiterals : List Term → List Value
  | [] => []
  | term :: rest => term.literals ++ termsLiterals rest

def entriesLiterals : List (String × Term) → List Value
  | [] => []
  | (_, term) :: rest => term.literals ++ entriesLiterals rest

def FilterTerm.literals : FilterTerm → List Value
  | .steps steps => stepsLiterals steps
  | .document entries | .entries entries => entriesLiterals entries
  | .named _ => []

def filtersLiterals : List FilterTerm → List Value
  | [] => []
  | source :: rest => source.literals ++ filtersLiterals rest

def ConditionTerm.literals : ConditionTerm → List Value
  | .finished source => source.literals
  | .deferred steps => stepsLiterals steps
  | .raw term => term.literals

/-- A call whose arguments are all at hand is written with their values and with the documents of
their filters. -/
def Step.literals : Step → List Value
  | .call c => c.values ++ c.filters.map Filter.toValue
  | .put _ value => value.literals
  | .relation _ _ operand => operand.literals
  | .members _ _ values => termsLiterals values
  | .elements _ condition | .noElements _ condition => condition.literals
  | .combine _ sources => filtersLiterals sources
  | .negate source | .merge source | .set source | .equals source => source.literals
  | .extend entries => entriesLiterals entries
  | _ => []

def stepsLiterals : List Step → List Value
  | [] => []
  | step :: rest => step.literals ++ stepsLiterals rest

end

def scriptLiterals (script : List (String × Step)) : List Value :=
  script.flatMap fun entry => entry.2.literals

def Deed.values : Deed → List Value
  | .call _ c => c.values
  | .adopt d => [.document d]

def Deed.Distinct (x : Deed) : Prop := ∀ v ∈ x.values, v.Distinct

theorem keeps_distinct : Keeps (fun f => f.toValue.Distinct) Deed.Distinct where
  empty := Filter.distinct_empty
  call _ _ hv hf hg :=
    List.forall_mem_append.2 ⟨Call.distinct_asideFilters ⟨hv, hg⟩,
      List.forall_mem_singleton.2 (Filter.distinct_perform hf ⟨hv, hg⟩)⟩
  adopt _ hv := hv _ (List.mem_singleton_self _)

section Evaluation

variable {names : Names}

-- The recursion is that of the evaluation. A filter inside a term is built by deeds of its own, and
-- what `keeps_distinct` says of these makes its document a value like any other.
mutual

theorem Term.distinct (hn : ∀ name, (names name).toValue.Distinct) :
    ∀ t : Term, (∀ v ∈ t.literals, v.Distinct) →
      (∀ x ∈ t.deeds names, x.Distinct) ∧ (t.eval names).1.Distinct
  | .value v, h => by
    rw [Term.literals] at h
    rw [Term.deeds, Term.eval]
    exact ⟨by simp, h v (List.mem_singleton_self v)⟩
  | .array items, h => by
    rw [Term.literals] at h
    rw [Term.deeds, Term.eval, Value.distinct_array]
    exact terms_distinct hn items h
  | .document entries, h => by
    rw [Term.literals] at h
    rw [Term.deeds, Term.eval]
    obtain ⟨hd, hes⟩ := entries_distinct hn entries h
    exact ⟨hd, Document.distinct_ofEntries hes⟩
  | .javascriptWithScope _ scope, h => by
    rw [Term.literals] at h
    rw [Term.deeds, Term.eval]
    obtain ⟨hd, hes⟩ := entries_distinct hn scope h
    exact ⟨hd, (Value.distinct_javascriptWithScope _ _).2 (Document.distinct_ofEntries hes)⟩
  | .filter source, h => by
    rw [Term.literals] at h
    rw [Term.deeds, Term.eval]
    have hd := FilterTerm.distinct hn source h
    exact ⟨hd, (keeps_distinct.filterTerm hn source hd).2⟩
  | .relation r operand, h => by
    rw [Term.literals] at h
    rw [Term.deeds, Term.eval]
    obtain ⟨hd, hv⟩ := Term.distinct hn operand h
    exact ⟨hd, (Value.distinct_fragment _ _).2 hv⟩
  | .membership m operands, h => by
    rw [Term.literals] at h
    rw [Term.deeds, Term.eval]
    obtain ⟨hd, hvs⟩ := terms_distinct hn operands h
    exact ⟨hd, (Value.distinct_fragment _ _).2 ((Value.distinct_array _).2 hvs)⟩

theorem terms_distinct (hn : ∀ name, (names name).toValue.Distinct) :
    ∀ ts : List Term, (∀ v ∈ termsLiterals ts, v.Distinct) →
      (∀ x ∈ termsDeeds names ts, x.Distinct) ∧ ∀ v ∈ (evalTerms names ts).1, v.Distinct
  | [], _ => by simp [termsDeeds, evalTerms]
  | t :: rest, h => by
    rw [termsLiterals] at h
    rw [termsDeeds, evalTerms]
    obtain ⟨ht, hrest⟩ := List.forall_mem_append.1 h
    obtain ⟨hd, hv⟩ := Term.distinct hn t ht
    obtain ⟨hds, hvs⟩ := terms_distinct hn rest hrest
    exact ⟨List.forall_mem_append.2 ⟨hd, hds⟩, List.forall_mem_cons.2 ⟨hv, hvs⟩⟩

theorem entries_distinct (hn : ∀ name, (names name).toValue.Distinct) :
    ∀ es : List (String × Term), (∀ v ∈ entriesLiterals es, v.Distinct) →
      (∀ x ∈ entriesDeeds names es, x.Distinct) ∧ ∀ e ∈ (evalEntries names es).1, e.2.Distinct
  | [], _ => by simp [entriesDeeds, evalEntries]
  | (_, t) :: rest, h => by
    rw [entriesLiterals] at h
    rw [entriesDeeds, evalEntries]
    obtain ⟨ht, hrest⟩ := List.forall_mem_append.1 h
    obtain ⟨hd, hv⟩ := Term.distinct hn t ht
    obtain ⟨hds, hes⟩ := entries_distinct hn rest hrest
    exact ⟨List.forall_mem_append.2 ⟨hd, hds⟩, List.forall_mem_cons.2 ⟨hv, hes⟩⟩

theorem FilterTerm.distinct (hn : ∀ name, (names name).toValue.Distinct) :
    ∀ source : FilterTerm, (∀ v ∈ source.literals, v.Distinct) →
      ∀ x ∈ source.deeds names, x.Distinct
  | .steps steps, h => by
    rw [FilterTerm.literals] at h
    rw [FilterTerm.deeds]
    exact steps_distinct hn steps .empty h
  | .document entries, h => by
    rw [FilterTerm.literals] at h
    rw [FilterTerm.deeds]
    obtain ⟨hd, hes⟩ := entries_distinct hn entries h
    refine List.forall_mem_append.2 ⟨hd, List.forall_mem_singleton.2 ?_⟩
    exact List.forall_mem_singleton.2 (Document.distinct_ofEntries hes)
  | .entries entries, h => by
    rw [FilterTerm.literals] at h
    rw [FilterTerm.deeds]
    obtain ⟨hd, hes⟩ := entries_distinct hn entries h
    refine List.forall_mem_append.2 ⟨hd, List.forall_mem_singleton.2 ?_⟩
    exact List.forall_mem_map.2 hes
  | .named _, _ => by
    rw [FilterTerm.deeds]
    simp

theorem filters_distinct (hn : ∀ name, (names name).toValue.Distinct) :
    ∀ sources : List FilterTerm, (∀ v ∈ filtersLiterals sources, v.Distinct) →
      ∀ x ∈ filtersDeeds names sources, x.Distinct
  | [], _ => by simp [filtersDeeds]
  | source :: rest, h => by
    rw [filtersLiterals] at h
    rw [filtersDeeds]
    obtain ⟨hsource, hrest⟩ := List.forall_mem_append.1 h
    exact List.forall_mem_append.2 ⟨FilterTerm.distinct hn source hsource,
      filters_distinct hn rest hrest⟩

theorem ConditionTerm.distinct (hn : ∀ name, (names name).toValue.Distinct) :
    ∀ condition : ConditionTerm, (∀ v ∈ condition.literals, v.Distinct) →
      (∀ x ∈ condition.deeds names, x.Distinct) ∧
        ∀ v ∈ (condition.eval names).1.values, v.Distinct
  | .finished source, h => by
    rw [ConditionTerm.literals] at h
    rw [ConditionTerm.deeds, ConditionTerm.eval]
    exact ⟨FilterTerm.distinct hn source h, by simp [ElementCondition.values]⟩
  | .deferred steps, h => by
    rw [ConditionTerm.literals] at h
    rw [ConditionTerm.deeds, ConditionTerm.eval]
    exact ⟨steps_distinct hn steps .empty h, by simp [ElementCondition.values]⟩
  | .raw t, h => by
    rw [ConditionTerm.literals] at h
    rw [ConditionTerm.deeds, ConditionTerm.eval]
    obtain ⟨hd, hv⟩ := Term.distinct hn t h
    exact ⟨hd, List.forall_mem_singleton.2 hv⟩

theorem Step.distinct (hn : ∀ name, (names name).toValue.Distinct) :
    ∀ step : Step, (∀ v ∈ step.literals, v.Distinct) →
      (∀ x ∈ step.argumentDeeds names, x.Distinct) ∧
        ∀ v ∈ (step.call? names).elim [] Call.values, v.Distinct
  | .call c, h => by
    rw [Step.literals] at h
    rw [Step.argumentDeeds]
    obtain ⟨hvs, hgs⟩ := List.forall_mem_append.1 h
    refine ⟨List.forall_mem_map.2 fun g hg => List.forall_mem_singleton.2 ?_, hvs⟩
    exact hgs g.toValue (List.mem_map_of_mem hg)
  | .put _ value, h => by
    rw [Step.literals] at h
    rw [Step.argumentDeeds]
    obtain ⟨hd, hv⟩ := Term.distinct hn value h
    exact ⟨hd, List.forall_mem_singleton.2 hv⟩
  | .relation _ _ operand, h => by
    rw [Step.literals] at h
    rw [Step.argumentDeeds]
    obtain ⟨hd, hv⟩ := Term.distinct hn operand h
    exact ⟨hd, List.forall_mem_singleton.2 hv⟩
  | .members _ test values, h => by
    rw [Step.literals] at h
    rw [Step.argumentDeeds]
    obtain ⟨hd, hvs⟩ := terms_distinct hn values h
    refine ⟨hd, ?_⟩
    cases test with
    | isIn | notIn => exact List.forall_mem_singleton.2 ((Value.distinct_array _).2 hvs)
    | all | noneOf => exact hvs
  | .elements _ condition, h | .noElements _ condition, h => by
    rw [Step.literals] at h
    rw [Step.argumentDeeds]
    exact ConditionTerm.distinct hn condition h
  | .combine _ sources, h => by
    rw [Step.literals] at h
    rw [Step.argumentDeeds]
    exact ⟨filters_distinct hn sources h, by simp [Step.call?, Call.values]⟩
  | .negate source, h | .merge source, h | .set source, h | .equals source, h => by
    rw [Step.literals] at h
    rw [Step.argumentDeeds]
    exact ⟨FilterTerm.distinct hn source h, by simp [Step.call?, Call.values]⟩
  | .extend entries, h => by
    rw [Step.literals] at h
    rw [Step.argumentDeeds]
    obtain ⟨hd, hes⟩ := entries_distinct hn entries h
    exact ⟨hd, List.forall_mem_map.2 hes⟩
  | .read text, _ => by
    rw [Step.argumentDeeds]
    refine ⟨List.forall_mem_map.2 fun g hg => List.forall_mem_singleton.2 ?_, by simp [Step.call?]⟩
    exact Filter.distinct_of_ofJson? (Option.mem_toList.1 hg)
  | .isEmpty, _ | .get _, _ | .document, _ | .display, _ | .annotated, _ | .compactJson, _ => by
    simp [Step.argumentDeeds, Step.call?]

theorem steps_distinct (hn : ∀ name, (names name).toValue.Distinct) :
    ∀ (steps : List Step) (f : Filter), (∀ v ∈ stepsLiterals steps, v.Distinct) →
      ∀ x ∈ stepsDeeds names steps f, x.Distinct
  | [], f, _ => by simp [stepsDeeds]
  | step :: rest, f, h => by
    rw [stepsLiterals] at h
    rw [stepsDeeds]
    obtain ⟨hstep, hrest⟩ := List.forall_mem_append.1 h
    obtain ⟨hd, hc⟩ := Step.distinct hn step hstep
    refine List.forall_mem_append.2 ⟨List.forall_mem_append.2 ⟨hd, ?_⟩,
      steps_distinct hn rest _ hrest⟩
    refine List.forall_mem_map.2 fun c hmem => ?_
    rwa [Option.mem_toList.1 hmem] at hc

end

theorem Step.distinct_deeds (hn : ∀ name, (names name).toValue.Distinct) {step : Step}
    (h : ∀ v ∈ step.literals, v.Distinct) (f : Filter) : ∀ x ∈ step.deeds names f, x.Distinct := by
  -- a step alone is a list of steps
  have hd := steps_distinct hn [step] f (by simpa [stepsLiterals] using h)
  rw [stepsDeeds, stepsDeeds, List.append_nil] at hd
  exact hd

theorem scriptDeeds_distinct (hn : ∀ name, (names name).toValue.Distinct)
    {script : List (String × Step)} (h : ∀ v ∈ scriptLiterals script, v.Distinct) :
    ∀ x ∈ scriptDeeds names script, x.Distinct := by
  induction script generalizing names with
  | nil => simp [scriptDeeds]
  | cons entry rest ih =>
    obtain ⟨name, step⟩ := entry
    obtain ⟨hstep, hrest⟩ := List.forall_mem_append.1 h
    have hd := Step.distinct_deeds hn hstep (names name)
    have hf := (keeps_distinct.step hn hd (hn name)).2
    rw [scriptDeeds]
    refine List.forall_mem_append.2 ⟨hd, ih (fun other => ?_) hrest⟩
    rw [Names.set]
    split_ifs
    · exact hf
    · exact hn other

end Evaluation

def Step.replaces : Step → Bool
  | .set _ | .read _ => true
  | _ => false

theorem Step.keys_prefix_run {step : Step} (h : step.replaces = false) (names : Names)
    (f : Filter) : Document.keys f.document <+: Document.keys (step.run names f).filter.document := by
  cases hc : step.call? names with
  | some c =>
    rw [Step.filter_run_of_call hc]
    exact f.keys_prefix_perform c
  | none =>
    cases step with
    | set source | read text => cases h
    | isEmpty | equals source | get field | document | display | annotated | compactJson =>
      rewrite [Step.run]
      exact List.prefix_rfl
    | _ => cases hc

/-- In a script that is written with values in which no document repeats a key, no document in any
filter does so at any time, at any depth. And whatever filter a step is taken on, in the script or
inside an argument, the keys that are there stay where they are, unless the step puts another filter
in its place. -/
theorem scriptFilters_distinct (names : Names) (hn : ∀ name, (names name).toValue.Distinct)
    (script : List (String × Step)) (h : ∀ v ∈ scriptLiterals script, v.Distinct) :
    (∀ g ∈ scriptFilters names script, g.toValue.Distinct) ∧
      ∀ (step : Step), step.replaces = false → ∀ (names' : Names) (f : Filter),
        Document.keys f.document <+: Document.keys (step.run names' f).filter.document :=
  ⟨keeps_distinct.script hn (scriptDeeds_distinct hn h),
    fun _ hstep names' f => Step.keys_prefix_run hstep names' f⟩

/-- Terms and entries repeat a key, arrays hold documents, and the last call is refused. -/
theorem scriptFilters_distinct_repeated :
    let item : FilterTerm := .steps [.put "k" (.value (.int32 1)), .put "k" (.value (.int32 2))]
    let refused : Step := .noElements "c" (.raw (.value (.int32 3)))
    let script : List (String × Step) :=
      [("main", .put "a" (.document [("x", .value .null), ("x", .array [.filter item])])),
       ("main", .merge (.entries [("b", .value (.int32 1)), ("a", .value (.document [("y", .null)])),
         ("b", .array [])])),
       ("main", refused)]
    let final : Filter := ⟨[("a", .document [("x", .array [.document [("k", .int32 2)]]),
      ("y", .null)]), ("b", .array [])]⟩
    (∀ name, (noNames name).toValue.Distinct) ∧ (∀ v ∈ scriptLiterals script, v.Distinct) ∧
      (∀ g ∈ scriptFilters noNames script, g.toValue.Distinct) ∧
      (runScript noNames script).map (fun effect => Document.keys effect.filter.document) =
        [["a"], ["a", "b"], ["a", "b"]] ∧
      final ∈ (runScript noNames script).map Effect.filter ∧ refused.replaces = false ∧
      Document.keys final.document <+: Document.keys (refused.run noNames final).filter.document := by
  intro item refused script final
  have hn : ∀ name, (noNames name).toValue.Distinct := fun _ => Filter.distinct_empty
  have hs : scriptLiterals script =
      [.null, .int32 1, .int32 2, .int32 1, .document [("y", .null)], .int32 3] := rfl
  have h : ∀ v ∈ scriptLiterals script, v.Distinct := by simp [hs]
  obtain ⟨hdistinct, hkeys⟩ := scriptFilters_distinct noNames hn script h
  have hfinal : (runScript noNames script).map Effect.filter =
      [⟨[("a", .document [("x", .array [.document [("k", .int32 2)]])])]⟩, final, final] := rfl
  refine ⟨hn, h, hdistinct, rfl, ?_, rfl, hkeys refused rfl noNames final⟩
  rw [hfinal]
  simp

end DocFilter
