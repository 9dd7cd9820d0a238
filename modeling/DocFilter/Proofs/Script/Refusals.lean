import DocFilter.Proofs.Calls.Keys

/-! Refused calls. A step is refused only for how it is written: it matches the elements of an array
against a value that is not a document. It leaves its filter as it was, and what a script makes of
its filters does not change when every such step is taken out of it, at any depth. -/

namespace DocFilter

namespace ElementCondition

def cause? : ElementCondition → Option MalformedArgument
  | .raw value => if value.kind = .object then none else some (.elementCondition value.kind)
  | _ => none

theorem document_of_cause {condition : ElementCondition} {e : MalformedArgument}
    (h : condition.cause? = some e) : condition.document = .error e := by
  cases condition with
  | raw value =>
    rw [cause?] at h
    split_ifs at h with hk
    obtain rfl := Option.some.inj h
    cases value with
    | document d => exact absurd rfl hk
    | _ => rfl
  | _ => cases h

theorem document_of_cause_none {condition : ElementCondition} (h : condition.cause? = none) :
    ∃ d, condition.document = .ok d := by
  cases condition with
  | raw value =>
    rw [cause?] at h
    split_ifs at h with hk
    obtain ⟨d, rfl⟩ := Value.eq_document_of_kind hk
    exact ⟨d, rfl⟩
  | _ => exact ⟨_, rfl⟩

theorem cause?_eq_some_iff (condition : ElementCondition) (e : MalformedArgument) :
    condition.cause? = some e ↔
      ∃ value, condition = .raw value ∧ value.kind ≠ .object ∧ e = .elementCondition value.kind := by
  cases condition with
  | raw value =>
    rw [cause?]
    split_ifs with hk
    · simp [hk]
    · rw [Option.some.injEq]
      constructor
      · rintro rfl
        exact ⟨value, rfl, hk, rfl⟩
      · rintro ⟨_, heq, -, rfl⟩
        obtain rfl := raw.inj heq
        rfl
  | _ => simp [cause?]

end ElementCondition

namespace Call

def cause? (c : Call) : Option MalformedArgument := c.elementMatch?.bind fun m => m.2.cause?

theorem cause?_eq_some_iff (c : Call) (e : MalformedArgument) :
    c.cause? = some e ↔ ∃ field value,
      (c = .elements field (.raw value) ∨ c = .noElements field (.raw value)) ∧
        value.kind ≠ .object ∧ e = .elementCondition value.kind := by
  cases c with
  | elements field condition | noElements field condition =>
    simp [cause?, elementMatch?, ElementCondition.cause?_eq_some_iff]
  | _ => simp [cause?, elementMatch?]

end Call

namespace Filter

theorem refusal_of_condition {c : Call} {condition : ElementCondition}
    (ok : ∀ d, condition.document = .ok d → ∃ cs, c.constraints = .ok cs)
    (error : ∀ e, condition.document = .error e → c.constraints = .error e) (f : Filter) :
    (f.perform c).refusal = condition.cause? := by
  cases hc : condition.cause? with
  | some e => exact (perform_of_error (error e (ElementCondition.document_of_cause hc)) f).2
  | none =>
    obtain ⟨d, hd⟩ := ElementCondition.document_of_cause_none hc
    obtain ⟨cs, hcs⟩ := ok d hd
    exact (perform_of_ok hcs f).2

/-- Whether a call is refused, and why, is a matter of the call alone. -/
theorem refusal_perform (f : Filter) (c : Call) : (f.perform c).refusal = c.cause? := by
  cases c with
  | elements field condition =>
    exact refusal_of_condition (fun _ hd => ⟨_, Call.constraints_elements_of_ok field hd⟩)
      (fun _ hd => Call.constraints_elements_of_error field hd) f
  | noElements field condition =>
    exact refusal_of_condition (fun _ hd => ⟨_, Call.constraints_noElements_of_ok field hd⟩)
      (fun _ hd => Call.constraints_noElements_of_error field hd) f
  | _ => rfl

end Filter

/-- The kind of the value that a term evaluates to, which is to be seen from how it is written. -/
def Term.kind : Term → Kind
  | .value v => v.kind
  | .array _ => .array
  | .javascriptWithScope .. => .javascriptWithScope
  | .document _ | .filter _ | .relation .. | .membership .. => .object

theorem Term.kind_eval (names : Names) (t : Term) : (t.eval names).1.kind = t.kind := by
  cases t <;> rw [Term.eval] <;> rfl

def ConditionTerm.cause? : ConditionTerm → Option MalformedArgument
  | .raw term => if term.kind = .object then none else some (.elementCondition term.kind)
  | _ => none

theorem ConditionTerm.cause?_eval (names : Names) (condition : ConditionTerm) :
    (condition.eval names).1.cause? = condition.cause? := by
  cases condition with
  | raw term =>
    rw [ConditionTerm.eval, ElementCondition.cause?, Term.kind_eval]
    rfl
  | _ =>
    rw [ConditionTerm.eval]
    rfl

namespace Step

def cause? : Step → Option MalformedArgument
  | .call c => c.cause?
  | .elements _ condition | .noElements _ condition => condition.cause?
  | _ => none

def isMalformed (step : Step) : Bool := step.cause?.isSome

end Step

def StepResult.isRefusal : StepResult → Bool
  | .refused _ => true
  | _ => false

theorem StepResult.isRefusal_iff (r : StepResult) : r.isRefusal = true ↔ ∃ e, r = .refused e := by
  cases r <;> simp [isRefusal]

def Effect.shown (effect : Effect) : Filter × StepResult := (effect.filter, effect.result)

-- What is left of a script, and of everything that is written in it, without the refused steps.
mutual

def Term.pruned : Term → Term
  | .value v => .value v
  | .array items => .array (prunedTerms items)
  | .document entries => .document (prunedEntries entries)
  | .javascriptWithScope code scope => .javascriptWithScope code (prunedEntries scope)
  | .filter source => .filter source.pruned
  | .relation r operand => .relation r operand.pruned
  | .membership m operands => .membership m (prunedTerms operands)

def prunedTerms : List Term → List Term
  | [] => []
  | term :: rest => term.pruned :: prunedTerms rest

def prunedEntries : List (String × Term) → List (String × Term)
  | [] => []
  | (key, term) :: rest => (key, term.pruned) :: prunedEntries rest

def FilterTerm.pruned : FilterTerm → FilterTerm
  | .steps steps => .steps (prunedSteps steps)
  | .document entries => .document (prunedEntries entries)
  | .entries entries => .entries (prunedEntries entries)
  | .named name => .named name

def prunedFilters : List FilterTerm → List FilterTerm
  | [] => []
  | source :: rest => source.pruned :: prunedFilters rest

def ConditionTerm.pruned : ConditionTerm → ConditionTerm
  | .finished source => .finished source.pruned
  | .deferred steps => .deferred (prunedSteps steps)
  | .raw term => .raw term.pruned

def Step.pruned : Step → Step
  | .put field value => .put field value.pruned
  | .relation field r operand => .relation field r operand.pruned
  | .members field test values => .members field test (prunedTerms values)
  | .elements field condition => .elements field condition.pruned
  | .noElements field condition => .noElements field condition.pruned
  | .combine clause sources => .combine clause (prunedFilters sources)
  | .negate source => .negate source.pruned
  | .merge source => .merge source.pruned
  | .extend entries => .extend (prunedEntries entries)
  | .set source => .set source.pruned
  | .equals source => .equals source.pruned
  | .call c => .call c
  | .read text => .read text
  | .get field => .get field
  | .isEmpty => .isEmpty
  | .document => .document
  | .display => .display
  | .annotated => .annotated
  | .compactJson => .compactJson

def prunedSteps : List Step → List Step
  | [] => []
  | step :: rest => if step.isMalformed then prunedSteps rest else step.pruned :: prunedSteps rest

end

def prunedScript : List (String × Step) → List (String × Step)
  | [] => []
  | (name, step) :: rest =>
    if step.isMalformed then prunedScript rest else (name, step.pruned) :: prunedScript rest

def stepEffects (names : Names) : List Step → Filter → List Effect
  | [], _ => []
  | step :: rest, f =>
    let effect := step.run names f
    effect :: stepEffects names rest effect.filter

/-- What comes of each step of a script, and what the names stand for after it. -/
def scriptTrail (names : Names) : List (String × Step) → List (Effect × Names)
  | [] => []
  | (name, step) :: rest =>
    let effect := step.run names (names name)
    let next := names.set name effect.filter
    (effect, next) :: scriptTrail next rest

theorem map_fst_scriptTrail (names : Names) (script : List (String × Step)) :
    (scriptTrail names script).map Prod.fst = runScript names script := by
  induction script generalizing names with
  | nil => rfl
  | cons entry rest ih => simp [scriptTrail, runScript, ih]

namespace Step

theorem cause?_eq (names : Names) (step : Step) :
    step.cause? = (step.call? names).bind Call.cause? := by
  cases step with
  | elements field condition | noElements field condition =>
    exact (condition.cause?_eval names).symm
  | members field test values => cases test <;> rfl
  | _ => rfl

theorem result_run_of_call {names : Names} {step : Step} {c : Call}
    (h : step.call? names = some c) (f : Filter) :
    (step.run names f).result =
      match (f.perform c).refusal with
      | none => .changed
      | some e => .refused e := by
  cases step <;> cases h <;> rw [Step.run] <;> rfl

theorem result_run_ne_refused {names : Names} {step : Step} (h : step.call? names = none)
    (f : Filter) (e : MalformedArgument) : (step.run names f).result ≠ .refused e := by
  cases step with
  | read text =>
    rw [Step.run]
    cases Filter.ofJson? text <;> simp [Filter.answer]
  | set source | isEmpty | equals source | get field | document | display | annotated
  | compactJson => simp [Step.run, Filter.answer]
  | _ => cases h

theorem result_run_eq_refused_iff (names : Names) (step : Step) (f : Filter)
    (e : MalformedArgument) : (step.run names f).result = .refused e ↔ step.cause? = some e := by
  rw [cause?_eq names]
  cases hc : step.call? names with
  | none => simpa using result_run_ne_refused hc f e
  | some c =>
    rw [result_run_of_call hc, Filter.refusal_perform, Option.bind_some]
    cases c.cause? <;> simp

theorem isRefusal_run (names : Names) (step : Step) (f : Filter) :
    (step.run names f).result.isRefusal = step.isMalformed := by
  rw [Bool.eq_iff_iff, StepResult.isRefusal_iff, isMalformed, Option.isSome_iff_exists]
  simp only [result_run_eq_refused_iff]

theorem filter_run_of_refused {names : Names} {step : Step} {f : Filter} {e : MalformedArgument}
    (h : (step.run names f).result = .refused e) : (step.run names f).filter = f := by
  cases hc : step.call? names with
  | none => exact absurd h (result_run_ne_refused hc f e)
  | some c =>
    rw [result_run_eq_refused_iff, cause?_eq names, hc, Option.bind_some] at h
    rw [filter_run_of_call hc]
    refine Filter.filter_perform_of_refused ?_
    rw [Filter.refusal_perform, h]
    exact Option.some_ne_none e

theorem filter_run_of_malformed {names : Names} {step : Step} {f : Filter}
    (h : step.isMalformed = true) : (step.run names f).filter = f := by
  rw [← isRefusal_run names step f, StepResult.isRefusal_iff] at h
  obtain ⟨e, he⟩ := h
  exact filter_run_of_refused he

/-- Both steps leave the same filter and come to the same, whatever filter they are taken on. -/
def Same (names : Names) (s t : Step) : Prop :=
  ∀ f, (s.run names f).shown = (t.run names f).shown

theorem Same.of_call {names : Names} {s t : Step} {c : Call} (hc : t.call? names = some c)
    (h : s.call? names = t.call? names) : Same names s t := by
  intro f
  rw [hc] at h
  rw [Effect.shown, Effect.shown, filter_run_of_call h, filter_run_of_call hc,
    result_run_of_call h, result_run_of_call hc]

end Step

section Pruning

variable (names : Names)

-- The recursion is that of the evaluation. A refused step leaves its filter as it was, so the steps
-- after it begin with the same filter whether it is taken or not.
mutual

theorem Term.eval_pruned : ∀ t : Term, (t.pruned.eval names).1 = (t.eval names).1
  | .value _ => by rw [Term.pruned]
  | .array items => by
    rw [Term.pruned, Term.eval, Term.eval]
    exact congrArg Value.array (evalTerms_pruned items)
  | .document entries => by
    rw [Term.pruned, Term.eval, Term.eval]
    exact congrArg (Value.document ∘ Document.ofEntries) (evalEntries_pruned entries)
  | .javascriptWithScope code scope => by
    rw [Term.pruned, Term.eval, Term.eval]
    exact congrArg (Value.javascriptWithScope code ∘ Document.ofEntries) (evalEntries_pruned scope)
  | .filter source => by
    rw [Term.pruned, Term.eval, Term.eval]
    exact congrArg Filter.toValue (FilterTerm.eval_pruned source)
  | .relation r operand => by
    rw [Term.pruned, Term.eval, Term.eval]
    exact congrArg (Comparison.toValue ∘ Comparison.relation r) (Term.eval_pruned operand)
  | .membership m operands => by
    rw [Term.pruned, Term.eval, Term.eval]
    exact congrArg (Comparison.toValue ∘ Comparison.membership m) (evalTerms_pruned operands)

theorem evalTerms_pruned :
    ∀ ts : List Term, (evalTerms names (prunedTerms ts)).1 = (evalTerms names ts).1
  | [] => by rw [prunedTerms]
  | t :: rest => by
    rw [prunedTerms, evalTerms, evalTerms]
    exact congrArg₂ List.cons (Term.eval_pruned t) (evalTerms_pruned rest)

theorem evalEntries_pruned : ∀ es : List (String × Term),
    (evalEntries names (prunedEntries es)).1 = (evalEntries names es).1
  | [] => by rw [prunedEntries]
  | (key, t) :: rest => by
    rw [prunedEntries, evalEntries, evalEntries]
    exact congrArg₂ List.cons (congrArg (Prod.mk key) (Term.eval_pruned t)) (evalEntries_pruned rest)

theorem FilterTerm.eval_pruned :
    ∀ source : FilterTerm, (source.pruned.eval names).1 = (source.eval names).1
  | .steps steps => by
    rw [FilterTerm.pruned, FilterTerm.eval, FilterTerm.eval]
    exact runSteps_pruned steps .empty
  | .document entries => by
    rw [FilterTerm.pruned, FilterTerm.eval, FilterTerm.eval]
    exact congrArg (Filter.mk ∘ Document.ofEntries) (evalEntries_pruned entries)
  | .entries entries => by
    rw [FilterTerm.pruned, FilterTerm.eval, FilterTerm.eval]
    exact congrArg Filter.empty.extend (evalEntries_pruned entries)
  | .named _ => by rw [FilterTerm.pruned]

theorem evalFilters_pruned : ∀ sources : List FilterTerm,
    (evalFilters names (prunedFilters sources)).1 = (evalFilters names sources).1
  | [] => by rw [prunedFilters]
  | source :: rest => by
    rw [prunedFilters, evalFilters, evalFilters]
    exact congrArg₂ List.cons (FilterTerm.eval_pruned source) (evalFilters_pruned rest)

theorem ConditionTerm.eval_pruned :
    ∀ condition : ConditionTerm, (condition.pruned.eval names).1 = (condition.eval names).1
  | .finished source => by
    rw [ConditionTerm.pruned, ConditionTerm.eval, ConditionTerm.eval]
    exact congrArg ElementCondition.finished (FilterTerm.eval_pruned source)
  | .deferred steps => by
    rw [ConditionTerm.pruned, ConditionTerm.eval, ConditionTerm.eval]
    exact congrArg (fun g => ElementCondition.deferred fun _ => g) (runSteps_pruned steps .empty)
  | .raw t => by
    rw [ConditionTerm.pruned, ConditionTerm.eval, ConditionTerm.eval]
    exact congrArg ElementCondition.raw (Term.eval_pruned t)

theorem Step.same_pruned : ∀ step : Step, Step.Same names step.pruned step
  | .put field value => by
    rw [Step.pruned]
    exact .of_call rfl (congrArg (some ∘ Call.put field) (Term.eval_pruned value))
  | .relation field r operand => by
    rw [Step.pruned]
    exact .of_call rfl
      (congrArg (some ∘ Call.compare field ∘ Comparison.relation r) (Term.eval_pruned operand))
  | .members field test values => by
    rw [Step.pruned]
    exact .of_call rfl (congrArg (fun vs => some (test.call field vs)) (evalTerms_pruned values))
  | .elements field condition => by
    rw [Step.pruned]
    exact .of_call rfl
      (congrArg (some ∘ Call.elements field) (ConditionTerm.eval_pruned condition))
  | .noElements field condition => by
    rw [Step.pruned]
    exact .of_call rfl
      (congrArg (some ∘ Call.noElements field) (ConditionTerm.eval_pruned condition))
  | .combine clause sources => by
    rw [Step.pruned]
    exact .of_call rfl (congrArg (some ∘ Call.combine clause) (evalFilters_pruned sources))
  | .negate source => by
    rw [Step.pruned]
    exact .of_call rfl (congrArg (some ∘ Call.negate) (FilterTerm.eval_pruned source))
  | .merge source => by
    rw [Step.pruned]
    exact .of_call rfl (congrArg (some ∘ Call.merge) (FilterTerm.eval_pruned source))
  | .extend entries => by
    rw [Step.pruned]
    exact .of_call rfl (congrArg (some ∘ Call.extend) (evalEntries_pruned entries))
  | .set source => by
    rw [Step.pruned]
    intro f
    rw [Step.run, Step.run]
    exact congrArg (Prod.mk · _) (FilterTerm.eval_pruned source)
  | .equals source => by
    rw [Step.pruned]
    intro f
    rw [Step.run, Step.run]
    exact congrArg (Prod.mk f ∘ StepResult.answered ∘ Answer.truth ∘ f.equal)
      (FilterTerm.eval_pruned source)
  | .call _ | .read _ | .isEmpty | .get _ | .document | .display | .annotated | .compactJson => by
    rw [Step.pruned]
    exact fun _ => rfl

theorem runSteps_pruned : ∀ (steps : List Step) (f : Filter),
    (runSteps names (prunedSteps steps) f).1 = (runSteps names steps f).1
  | [], f => by rw [prunedSteps]
  | step :: rest, f => by
    rw [prunedSteps, runSteps]
    cases hm : step.isMalformed with
    | true =>
      rw [if_pos rfl, runSteps_pruned rest f, Step.filter_run_of_malformed hm]
    | false =>
      have hf : (step.pruned.run names f).filter = (step.run names f).filter :=
        congrArg Prod.fst (Step.same_pruned step f)
      rw [if_neg Bool.false_ne_true, runSteps, hf]
      exact runSteps_pruned rest _

end

end Pruning

section Trails

/-- After each step that is left, the filter is the one that it was with all steps. -/
theorem map_shown_stepEffects (names : Names) (steps : List Step) (f : Filter) :
    (stepEffects names (prunedSteps steps) f).map Effect.shown =
      ((stepEffects names steps f).filter (!·.result.isRefusal)).map Effect.shown := by
  induction steps generalizing f with
  | nil => rfl
  | cons step rest ih =>
    rw [prunedSteps, stepEffects, List.filter_cons, Step.isRefusal_run]
    cases hm : step.isMalformed with
    | true =>
      rw [Step.filter_run_of_malformed hm]
      exact ih f
    | false =>
      have hs := Step.same_pruned names step f
      have hf : (step.pruned.run names f).filter = (step.run names f).filter := congrArg Prod.fst hs
      rw [if_neg Bool.false_ne_true, Bool.not_false, if_pos rfl, stepEffects, List.map_cons,
        List.map_cons, hs, hf, ih]

theorem Names.set_self (names : Names) (name : String) : names.set name (names name) = names := by
  funext other
  rw [Names.set]
  split_ifs with h
  · rw [h]
  · rfl

theorem map_shown_scriptTrail (names : Names) (script : List (String × Step)) :
    (scriptTrail names (prunedScript script)).map (Prod.map Effect.shown id) =
      ((scriptTrail names script).filter (!·.1.result.isRefusal)).map
        (Prod.map Effect.shown id) := by
  induction script generalizing names with
  | nil => rfl
  | cons entry rest ih =>
    obtain ⟨name, step⟩ := entry
    rw [prunedScript, scriptTrail, List.filter_cons, Step.isRefusal_run]
    cases hm : step.isMalformed with
    | true =>
      rw [Step.filter_run_of_malformed hm, Names.set_self]
      exact ih names
    | false =>
      have hs := Step.same_pruned names step (names name)
      have hf : (step.pruned.run names (names name)).filter =
          (step.run names (names name)).filter := congrArg Prod.fst hs
      rw [if_neg Bool.false_ne_true, Bool.not_false, if_pos rfl, scriptTrail, List.map_cons,
        List.map_cons, Prod.map_apply, Prod.map_apply, hs, hf, ih]

end Trails

/-- A step is refused exactly if it matches array elements against a value that is not a document,
and then its filter stays as it was. If all such steps are taken out of a script, and out of every
list of steps and every deferred condition in it, then each step that is left comes to the same as
before, and after it every name stands for the same filter. Steps inside an argument are taken on one
filter with the names fixed, and what holds of the script holds of them. -/
theorem refused_steps_are_no_ops (names : Names) (script : List (String × Step)) :
    (∀ (step : Step) (names' : Names) (f : Filter) (e : MalformedArgument),
      (step.run names' f).result = .refused e ↔
        ∃ field value, (step.call? names' = some (.elements field (.raw value)) ∨
            step.call? names' = some (.noElements field (.raw value))) ∧
          value.kind ≠ .object ∧ e = .elementCondition value.kind) ∧
    (∀ (step : Step) (names' : Names) (f : Filter) (e : MalformedArgument),
      (step.run names' f).result = .refused e → (step.run names' f).filter = f) ∧
    (∀ (step : Step) (names' : Names) (f : Filter),
      step.isMalformed = true ↔ ∃ e, (step.run names' f).result = .refused e) ∧
    (∀ (names' : Names) (source : FilterTerm),
      (source.pruned.eval names').1 = (source.eval names').1) ∧
    (∀ (names' : Names) (steps : List Step) (f : Filter),
      (stepEffects names' (prunedSteps steps) f).map Effect.shown =
        ((stepEffects names' steps f).filter (!·.result.isRefusal)).map Effect.shown) ∧
    (scriptTrail names script).map Prod.fst = runScript names script ∧
    (scriptTrail names (prunedScript script)).map (Prod.map Effect.shown id) =
      ((scriptTrail names script).filter (!·.1.result.isRefusal)).map
        (Prod.map Effect.shown id) := by
  refine ⟨fun step names' f e => ?_, fun _ _ _ _ h => Step.filter_run_of_refused h,
    fun step names' f => ?_, fun names' source => FilterTerm.eval_pruned names' source,
    map_shown_stepEffects, map_fst_scriptTrail names script, map_shown_scriptTrail names script⟩
  · rw [Step.result_run_eq_refused_iff, Step.cause?_eq names']
    cases hc : step.call? names' with
    | none => simp
    | some c => simp [Call.cause?_eq_some_iff]
  · rw [← Step.isRefusal_run names' step f, StepResult.isRefusal_iff]

/-- Refused steps on a name, in a filter among the arguments, and in a deferred condition inside of
that one. -/
example :
    let refused : Step := .noElements "a" (.raw (.array []))
    let script : List (String × Step) :=
      [("f", .elements "a" (.raw (.value .null))),
       ("f", .merge (.steps [refused, .noElements "b" (.deferred [refused, .call (.size "c" 1)])])),
       ("g", refused),
       ("g", .merge (.named "f"))]
    prunedScript script =
        [("f", .merge (.steps [.noElements "b" (.deferred [.call (.size "c" 1)])])),
         ("g", .merge (.named "f"))] ∧
      (runScript noNames (prunedScript script)).map Effect.shown =
        ((runScript noNames script).filter (!·.result.isRefusal)).map Effect.shown :=
  ⟨rfl, rfl⟩

end DocFilter
