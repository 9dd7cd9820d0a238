import DocFilter.Script.Run

/-! The history of a script: every call on any filter, those that are built for an argument included,
and every document that is taken for a filter. What holds of the empty filter and is kept by each of
these deeds holds of every filter of the script at any time. -/

namespace DocFilter

inductive Deed where
  /-- A call on a filter as it stands. -/
  | call (f : Filter) (c : Call)
  /-- A document is taken for a filter. -/
  | adopt (d : Document)

def ElementCondition.filters : ElementCondition → List Filter
  | .finished f => [f]
  | .deferred build => [build .empty]
  | .raw _ => []

namespace Call

def filters : Call → List Filter
  | .negate f | .merge f => [f]
  | .combine _ filters => filters
  | .elements _ condition | .noElements _ condition => condition.filters
  | _ => []

def asideFilters (c : Call) : List Filter :=
  match c.aside with
  | .ok constraints => constraints.map fun a => Filter.empty.addAll [a]
  | .error _ => []

end Call

def Deed.filters : Deed → List Filter
  | .call f c => c.asideFilters ++ [(f.perform c).filter]
  | .adopt d => [⟨d⟩]

def Step.call? (names : Names) : Step → Option Call
  | .call c => some c
  | .put field value => some (.put field (value.eval names).1)
  | .relation field r operand => some (.compare field (.relation r (operand.eval names).1))
  | .members field test values => some (test.call field (evalTerms names values).1)
  | .elements field condition => some (.elements field (condition.eval names).1)
  | .noElements field condition => some (.noElements field (condition.eval names).1)
  | .combine clause sources => some (.combine clause (evalFilters names sources).1)
  | .negate source => some (.negate (source.eval names).1)
  | .merge source => some (.merge (source.eval names).1)
  | .extend entries => some (.extend (evalEntries names entries).1)
  | _ => none

mutual

def Term.deeds (names : Names) : Term → List Deed
  | .value _ => []
  | .array items => termsDeeds names items
  | .document entries => entriesDeeds names entries
  | .javascriptWithScope _ scope => entriesDeeds names scope
  | .filter source => source.deeds names
  | .relation _ operand => operand.deeds names
  | .membership _ operands => termsDeeds names operands

def termsDeeds (names : Names) : List Term → List Deed
  | [] => []
  | term :: rest => term.deeds names ++ termsDeeds names rest

def entriesDeeds (names : Names) : List (String × Term) → List Deed
  | [] => []
  | (_, term) :: rest => term.deeds names ++ entriesDeeds names rest

/-- To collect entries is to extend an empty filter with them. -/
def FilterTerm.deeds (names : Names) : FilterTerm → List Deed
  | .steps steps => stepsDeeds names steps .empty
  | .document entries =>
    entriesDeeds names entries ++ [.adopt (Document.ofEntries (evalEntries names entries).1)]
  | .entries entries =>
    entriesDeeds names entries ++ [.call .empty (.extend (evalEntries names entries).1)]
  | .named _ => []

def filtersDeeds (names : Names) : List FilterTerm → List Deed
  | [] => []
  | source :: rest => source.deeds names ++ filtersDeeds names rest

def ConditionTerm.deeds (names : Names) : ConditionTerm → List Deed
  | .finished source => source.deeds names
  | .deferred steps => stepsDeeds names steps .empty
  | .raw term => term.deeds names

/-- What goes before the call of a step. How the filters of a call came about whose arguments are
all at hand is not known, so their documents are taken as they are. -/
def Step.argumentDeeds (names : Names) : Step → List Deed
  | .call c => c.filters.map fun g => .adopt g.document
  | .put _ value => value.deeds names
  | .relation _ _ operand => operand.deeds names
  | .members _ _ values => termsDeeds names values
  | .elements _ condition | .noElements _ condition => condition.deeds names
  | .combine _ sources => filtersDeeds names sources
  | .negate source | .merge source | .set source | .equals source => source.deeds names
  | .extend entries => entriesDeeds names entries
  | .read text => (Filter.ofJson? text).toList.map fun g => .adopt g.document
  | _ => []

def stepsDeeds (names : Names) : List Step → Filter → List Deed
  | [], _ => []
  | step :: rest, f =>
    step.argumentDeeds names ++ (step.call? names).toList.map (Deed.call f) ++
      stepsDeeds names rest (step.run names f).filter

end

def Step.deeds (names : Names) (f : Filter) (step : Step) : List Deed :=
  step.argumentDeeds names ++ (step.call? names).toList.map (Deed.call f)

def scriptDeeds (names : Names) : List (String × Step) → List Deed
  | [] => []
  | (name, step) :: rest =>
    step.deeds names (names name) ++
      scriptDeeds (names.set name (step.run names (names name)).filter) rest

/-- Every filter of a script: those that its deeds make, at any depth, and those that its steps leave
under their names. -/
def scriptFilters (names : Names) (script : List (String × Step)) : List Filter :=
  (scriptDeeds names script).flatMap Deed.filters ++ (runScript names script).map Effect.filter

theorem Step.filter_run_of_call {names : Names} {step : Step} {c : Call}
    (h : step.call? names = some c) (f : Filter) :
    (step.run names f).filter = (f.perform c).filter := by
  cases step <;> cases h <;> rw [Step.run] <;> rfl

/-- A property of filters that the empty one has and that deeds keep, provided that they are as `ok`
asks. A call finds it in its filter and in those among its arguments. -/
structure Keeps (inv : Filter → Prop) (ok : Deed → Prop) : Prop where
  empty : inv .empty
  call : ∀ f c, ok (.call f c) → inv f → (∀ g ∈ c.filters, inv g) →
    ∀ g ∈ (Deed.call f c).filters, inv g
  adopt : ∀ d, ok (.adopt d) → inv ⟨d⟩

def AllKeep (inv : Filter → Prop) (deeds : List Deed) : Prop :=
  ∀ x ∈ deeds, ∀ g ∈ x.filters, inv g

theorem allKeep_append {inv : Filter → Prop} {xs ys : List Deed} (hx : AllKeep inv xs)
    (hy : AllKeep inv ys) : AllKeep inv (xs ++ ys) :=
  List.forall_mem_append.2 ⟨hx, hy⟩

theorem allKeep_singleton {inv : Filter → Prop} {x : Deed} (h : ∀ g ∈ x.filters, inv g) :
    AllKeep inv [x] :=
  List.forall_mem_singleton.2 h

section Keeping

variable {inv : Filter → Prop} {ok : Deed → Prop} {names : Names}

theorem Keeps.filter_perform (hk : Keeps inv ok) {f : Filter} {c : Call} (h : ok (.call f c))
    (hf : inv f) (hc : ∀ g ∈ c.filters, inv g) : inv (f.perform c).filter :=
  hk.call f c h hf hc _ (by simp [Deed.filters])

theorem Keeps.adopted (hk : Keeps inv ok) {gs : List Filter}
    (h : ∀ x ∈ gs.map (fun g => Deed.adopt g.document), ok x) :
    AllKeep inv (gs.map fun g => .adopt g.document) ∧ ∀ g ∈ gs, inv g := by
  have hgs : ∀ g ∈ gs, inv g := fun g hg => hk.adopt g.document (h _ (List.mem_map_of_mem hg))
  refine ⟨?_, hgs⟩
  intro x hx g hg
  obtain ⟨g', hg', rfl⟩ := List.mem_map.1 hx
  obtain rfl := List.mem_singleton.1 hg
  exact hgs g' hg'

/-- What is known of a step before it is taken: the filters that its arguments have made and those
that they hold have the property, and so has the filter that a step leaves which is no call. -/
structure Prepared (inv : Filter → Prop) (names : Names) (step : Step) : Prop where
  deeds : AllKeep inv (step.argumentDeeds names)
  filters : ∀ c, step.call? names = some c → ∀ g ∈ c.filters, inv g
  other : step.call? names = none → ∀ f, inv f → inv (step.run names f).filter

theorem Prepared.of_call {step : Step} {c : Call} (hc : step.call? names = some c)
    (hd : AllKeep inv (step.argumentDeeds names)) (hg : ∀ g ∈ c.filters, inv g) :
    Prepared inv names step where
  deeds := hd
  filters c' hc' := by
    obtain rfl := Option.some.inj (hc.symm.trans hc')
    exact hg
  other hnone := by
    rw [hnone] at hc
    cases hc

theorem Prepared.of_other {step : Step} (hc : step.call? names = none)
    (hd : AllKeep inv (step.argumentDeeds names))
    (h : ∀ f, inv f → inv (step.run names f).filter) : Prepared inv names step where
  deeds := hd
  filters c hsome := by
    rw [hc] at hsome
    cases hsome
  other _ := h

theorem Prepared.of_question {step : Step} (hd : step.argumentDeeds names = [])
    (hc : step.call? names = none) (hr : ∀ f, (step.run names f).filter = f) :
    Prepared inv names step := by
  refine .of_other hc ?_ fun f hf => ?_
  · rw [hd]
    exact fun x hx => absurd hx List.not_mem_nil
  · rwa [hr]

theorem Prepared.step (hk : Keeps inv ok) {step : Step} (hp : Prepared inv names step) {f : Filter}
    (h : ∀ x ∈ step.deeds names f, ok x) (hf : inv f) :
    AllKeep inv (step.deeds names f) ∧ inv (step.run names f).filter := by
  obtain ⟨-, hcall⟩ := List.forall_mem_append.1 h
  constructor
  · refine allKeep_append hp.deeds fun x hx => ?_
    obtain ⟨c, hmem, rfl⟩ := List.mem_map.1 hx
    exact hk.call f c (hcall _ hx) hf (hp.filters c (Option.mem_toList.1 hmem))
  · cases hc : step.call? names with
    | none => exact hp.other hc f hf
    | some c =>
      rw [Step.filter_run_of_call hc]
      exact hk.filter_perform (hcall _ (by simp [hc])) hf (hp.filters c hc)

-- The recursion is that of the evaluation: a filter among the arguments is built from an empty one by
-- steps of its own, so what these make has the property before the call that takes it comes.
mutual

theorem Keeps.term (hk : Keeps inv ok) (hn : ∀ name, inv (names name)) :
    ∀ t : Term, (∀ x ∈ t.deeds names, ok x) → AllKeep inv (t.deeds names)
  | .value _, _ => by simp [Term.deeds, AllKeep]
  | .array items, h => by
    rw [Term.deeds] at h ⊢
    exact hk.terms hn items h
  | .document entries, h => by
    rw [Term.deeds] at h ⊢
    exact hk.entries hn entries h
  | .javascriptWithScope _ scope, h => by
    rw [Term.deeds] at h ⊢
    exact hk.entries hn scope h
  | .filter source, h => by
    rw [Term.deeds] at h ⊢
    exact (hk.filterTerm hn source h).1
  | .relation _ operand, h => by
    rw [Term.deeds] at h ⊢
    exact hk.term hn operand h
  | .membership _ operands, h => by
    rw [Term.deeds] at h ⊢
    exact hk.terms hn operands h

theorem Keeps.terms (hk : Keeps inv ok) (hn : ∀ name, inv (names name)) :
    ∀ ts : List Term, (∀ x ∈ termsDeeds names ts, ok x) → AllKeep inv (termsDeeds names ts)
  | [], _ => by simp [termsDeeds, AllKeep]
  | t :: rest, h => by
    rw [termsDeeds] at h ⊢
    obtain ⟨ht, hrest⟩ := List.forall_mem_append.1 h
    exact allKeep_append (hk.term hn t ht) (hk.terms hn rest hrest)

theorem Keeps.entries (hk : Keeps inv ok) (hn : ∀ name, inv (names name)) :
    ∀ es : List (String × Term), (∀ x ∈ entriesDeeds names es, ok x) →
      AllKeep inv (entriesDeeds names es)
  | [], _ => by simp [entriesDeeds, AllKeep]
  | (_, t) :: rest, h => by
    rw [entriesDeeds] at h ⊢
    obtain ⟨ht, hrest⟩ := List.forall_mem_append.1 h
    exact allKeep_append (hk.term hn t ht) (hk.entries hn rest hrest)

theorem Keeps.filterTerm (hk : Keeps inv ok) (hn : ∀ name, inv (names name)) :
    ∀ source : FilterTerm, (∀ x ∈ source.deeds names, ok x) →
      AllKeep inv (source.deeds names) ∧ inv (source.eval names).1
  | .steps steps, h => by
    rw [FilterTerm.deeds] at h ⊢
    rw [FilterTerm.eval]
    exact hk.steps hn steps .empty h hk.empty
  | .document entries, h => by
    rw [FilterTerm.deeds] at h ⊢
    obtain ⟨hes, hd⟩ := List.forall_mem_append.1 h
    have hinv := hk.adopt _ (hd _ (List.mem_singleton_self _))
    have hmade : ∀ g ∈ (Deed.adopt (Document.ofEntries (evalEntries names entries).1)).filters,
        inv g := List.forall_mem_singleton.2 hinv
    refine ⟨allKeep_append (hk.entries hn entries hes) (allKeep_singleton hmade), ?_⟩
    rw [FilterTerm.eval]
    exact hinv
  | .entries entries, h => by
    rw [FilterTerm.deeds] at h ⊢
    obtain ⟨hes, hc⟩ := List.forall_mem_append.1 h
    have hok := hc _ (List.mem_singleton_self _)
    have hmade := hk.call _ _ hok hk.empty (by simp [Call.filters])
    refine ⟨allKeep_append (hk.entries hn entries hes) (allKeep_singleton hmade), ?_⟩
    rw [FilterTerm.eval]
    exact hk.filter_perform hok hk.empty (by simp [Call.filters])
  | .named name, _ => by
    rw [FilterTerm.deeds, FilterTerm.eval]
    exact ⟨by simp [AllKeep], hn name⟩

theorem Keeps.filters (hk : Keeps inv ok) (hn : ∀ name, inv (names name)) :
    ∀ sources : List FilterTerm, (∀ x ∈ filtersDeeds names sources, ok x) →
      AllKeep inv (filtersDeeds names sources) ∧ ∀ g ∈ (evalFilters names sources).1, inv g
  | [], _ => by simp [filtersDeeds, evalFilters, AllKeep]
  | source :: rest, h => by
    rw [filtersDeeds] at h ⊢
    obtain ⟨hsource, hrest⟩ := List.forall_mem_append.1 h
    obtain ⟨hd, hg⟩ := hk.filterTerm hn source hsource
    obtain ⟨hds, hgs⟩ := hk.filters hn rest hrest
    refine ⟨allKeep_append hd hds, ?_⟩
    rw [evalFilters]
    exact List.forall_mem_cons.2 ⟨hg, hgs⟩

theorem Keeps.condition (hk : Keeps inv ok) (hn : ∀ name, inv (names name)) :
    ∀ condition : ConditionTerm, (∀ x ∈ condition.deeds names, ok x) →
      AllKeep inv (condition.deeds names) ∧ ∀ g ∈ (condition.eval names).1.filters, inv g
  | .finished source, h => by
    rw [ConditionTerm.deeds] at h ⊢
    obtain ⟨hd, hg⟩ := hk.filterTerm hn source h
    rw [ConditionTerm.eval]
    exact ⟨hd, List.forall_mem_singleton.2 hg⟩
  | .deferred steps, h => by
    rw [ConditionTerm.deeds] at h ⊢
    obtain ⟨hd, hg⟩ := hk.steps hn steps .empty h hk.empty
    rw [ConditionTerm.eval]
    exact ⟨hd, List.forall_mem_singleton.2 hg⟩
  | .raw t, h => by
    rw [ConditionTerm.deeds] at h ⊢
    rw [ConditionTerm.eval]
    exact ⟨hk.term hn t h, by simp [ElementCondition.filters]⟩

theorem Keeps.prepared (hk : Keeps inv ok) (hn : ∀ name, inv (names name)) :
    ∀ step : Step, (∀ x ∈ step.argumentDeeds names, ok x) → Prepared inv names step
  | .call c, h => by
    rw [Step.argumentDeeds] at h
    obtain ⟨hd, hg⟩ := hk.adopted h
    exact .of_call rfl hd hg
  | .put _ value, h => by
    rw [Step.argumentDeeds] at h
    exact .of_call rfl (hk.term hn value h) (by simp [Call.filters])
  | .relation _ _ operand, h => by
    rw [Step.argumentDeeds] at h
    exact .of_call rfl (hk.term hn operand h) (by simp [Call.filters])
  | .members _ test values, h => by
    rw [Step.argumentDeeds] at h
    refine .of_call rfl (hk.terms hn values h) ?_
    cases test <;> simp [MemberTest.call, Call.filters]
  | .elements _ condition, h | .noElements _ condition, h => by
    rw [Step.argumentDeeds] at h
    obtain ⟨hd, hg⟩ := hk.condition hn condition h
    exact .of_call rfl hd hg
  | .combine _ sources, h => by
    rw [Step.argumentDeeds] at h
    obtain ⟨hd, hg⟩ := hk.filters hn sources h
    exact .of_call rfl hd hg
  | .negate source, h | .merge source, h => by
    rw [Step.argumentDeeds] at h
    obtain ⟨hd, hg⟩ := hk.filterTerm hn source h
    exact .of_call rfl hd (List.forall_mem_singleton.2 hg)
  | .extend entries, h => by
    rw [Step.argumentDeeds] at h
    exact .of_call rfl (hk.entries hn entries h) (by simp [Call.filters])
  | .set source, h => by
    rw [Step.argumentDeeds] at h
    obtain ⟨hd, hg⟩ := hk.filterTerm hn source h
    exact .of_other rfl hd fun _ _ => hg
  | .read text, h => by
    rw [Step.argumentDeeds] at h
    obtain ⟨hd, hg⟩ := hk.adopted h
    refine .of_other rfl hd fun f hf => ?_
    rw [Step.run]
    cases hread : Filter.ofJson? text with
    | none => exact hf
    | some g => exact hg g (by simp [hread])
  | .equals source, h => by
    rw [Step.argumentDeeds] at h
    exact .of_other rfl (hk.filterTerm hn source h).1 fun _ hf => hf
  | .isEmpty, _ | .get _, _ | .document, _ | .display, _ | .annotated, _ | .compactJson, _ =>
    .of_question rfl rfl fun _ => rfl

theorem Keeps.steps (hk : Keeps inv ok) (hn : ∀ name, inv (names name)) :
    ∀ (steps : List Step) (f : Filter), (∀ x ∈ stepsDeeds names steps f, ok x) → inv f →
      AllKeep inv (stepsDeeds names steps f) ∧ inv (runSteps names steps f).1
  | [], f, _, hf => by
    rw [stepsDeeds, runSteps]
    exact ⟨by simp [AllKeep], hf⟩
  | step :: rest, f, h, hf => by
    rw [stepsDeeds, ← Step.deeds] at h ⊢
    obtain ⟨hstep, hrest⟩ := List.forall_mem_append.1 h
    have hargs := (List.forall_mem_append.1 hstep).1
    obtain ⟨hd, hf'⟩ := (hk.prepared hn step hargs).step hk hstep hf
    obtain ⟨hds, hend⟩ := hk.steps hn rest _ hrest hf'
    refine ⟨allKeep_append hd hds, ?_⟩
    rw [runSteps]
    exact hend

end

theorem Keeps.step (hk : Keeps inv ok) (hn : ∀ name, inv (names name)) {step : Step} {f : Filter}
    (h : ∀ x ∈ step.deeds names f, ok x) (hf : inv f) :
    AllKeep inv (step.deeds names f) ∧ inv (step.run names f).filter :=
  (hk.prepared hn step (List.forall_mem_append.1 h).1).step hk h hf

/-- What deeds keep holds of every filter of a script, if it holds of the filters that have a name at
the start. -/
theorem Keeps.script (hk : Keeps inv ok) (hn : ∀ name, inv (names name))
    {script : List (String × Step)} (h : ∀ x ∈ scriptDeeds names script, ok x) :
    ∀ g ∈ scriptFilters names script, inv g := by
  suffices hs : AllKeep inv (scriptDeeds names script) ∧
      ∀ effect ∈ runScript names script, inv effect.filter by
    intro g hg
    rcases List.mem_append.1 hg with hg | hg
    · obtain ⟨x, hx, hgx⟩ := List.mem_flatMap.1 hg
      exact hs.1 x hx g hgx
    · obtain ⟨effect, he, rfl⟩ := List.mem_map.1 hg
      exact hs.2 effect he
  induction script generalizing names with
  | nil => exact ⟨by simp [scriptDeeds, AllKeep], by simp [runScript]⟩
  | cons entry rest ih =>
    obtain ⟨name, step⟩ := entry
    rw [scriptDeeds] at h
    obtain ⟨hstep, hrest⟩ := List.forall_mem_append.1 h
    obtain ⟨hd, hf⟩ := hk.step hn hstep (hn name)
    have hn' : ∀ other, inv (names.set name (step.run names (names name)).filter other) := by
      intro other
      rw [Names.set]
      by_cases ho : other = name
      · rw [if_pos ho]
        exact hf
      · rw [if_neg ho]
        exact hn other
    obtain ⟨hds, heffects⟩ := ih hn' hrest
    rw [scriptDeeds, runScript]
    exact ⟨allKeep_append hd hds, List.forall_mem_cons.2 ⟨hf, heffects⟩⟩

end Keeping
end DocFilter
