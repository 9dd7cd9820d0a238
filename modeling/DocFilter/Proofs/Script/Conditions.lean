import DocFilter.Proofs.Negation.Fieldwise
import DocFilter.Proofs.Script.Refusals

/-! The condition of a match of elements can be handed over as a filter, under the name of one, as
steps that are taken when the call is made, as a document, or as a value. What some steps make of an
empty filter is the same condition in all of these ways, and a negation takes back what the call for
no such element has stored. -/

namespace DocFilter

/-- The ways to hand over what some steps make of an empty filter. -/
inductive Handing where
  | finished
  /-- The filter has a name, under which it goes on. -/
  | named (name : String)
  /-- The steps are taken when the call is made. -/
  | deferred
  /-- The document of the filter by itself. -/
  | document
  /-- The filter as a value. -/
  | value

namespace Handing

section Ways

variable (names : Names) (steps : List Step)

def condition : Handing → ElementCondition
  | .finished | .named _ => .finished (runSteps names steps .empty).1
  | .deferred => .deferred fun f => (runSteps names steps f).1
  | .document => .raw (.document (runSteps names steps .empty).1.document)
  | .value => .raw (runSteps names steps .empty).1.toValue

def term : Handing → ConditionTerm
  | .finished => .finished (.steps steps)
  | .named name => .finished (.named name)
  | .deferred => .deferred steps
  | .document => .raw (.value (.document (runSteps names steps .empty).1.document))
  | .value => .raw (.filter (.steps steps))

def scope : Handing → Names
  | .named name => names.set name (runSteps names steps .empty).1
  | _ => names

end Ways

theorem document_condition (names : Names) (steps : List Step) (way : Handing) :
    (way.condition names steps).document = .ok (runSteps names steps .empty).1.document := by
  cases way <;> rfl

theorem document_eval_term (names : Names) (steps : List Step) (way : Handing) :
    ((way.term names steps).eval (way.scope names steps)).1.document =
      .ok (runSteps names steps .empty).1.document := by
  cases way with
  | finished =>
    rw [term, ConditionTerm.eval, FilterTerm.eval]
    rfl
  | named name =>
    rw [term, ConditionTerm.eval, FilterTerm.eval, scope, Names.set, if_pos rfl]
    rfl
  | deferred =>
    rw [term, ConditionTerm.eval]
    rfl
  | document =>
    rw [term, ConditionTerm.eval, Term.eval]
    rfl
  | value =>
    rw [term, ConditionTerm.eval, Term.eval, FilterTerm.eval]
    rfl

end Handing

theorem Step.shown_run {names : Names} {step : Step} {c : Call} {f g : Filter}
    (hc : step.call? names = some c)
    (h : (f.perform c).filter = g ∧ (f.perform c).refusal = none) :
    (step.run names f).shown = (g, .changed) := by
  rw [Effect.shown, filter_run_of_call hc, result_run_of_call hc, h.1, h.2]

namespace Filter

/-- The negation of a match of elements is a lone `$not`, so that negating it leaves the match. -/
theorem perform_negate_noElements {condition : ElementCondition} {d : Document}
    (h : condition.document = .ok d) (f : Filter) (field : String) :
    (f.perform (.negate (empty.perform (.noElements field condition)).filter)).filter =
      (f.perform (.put field (fragment .elemMatch (.document d)))).filter := by
  have hstored : (empty.perform (.noElements field condition)).filter.document =
      [(field, fragment .not (fragment .elemMatch (.document d)))] := by
    rw [(perform_noElements_of_ok h empty field).1]
    rfl
  apply ext_document
  rw [document_perform_negate, hstored, Document.mapValues, List.map_singleton,
    Value.negation_fragment_not, Document.merge_cons, Document.merge_nil]
  rfl

/-- What some steps make of an empty filter, refused ones among them, is one condition in whatever
way it is handed over, in a call as well as in a script: the match of elements puts it under
`$elemMatch`, and the call for no such element puts it under `$not` and `$elemMatch`. If the latter is
made on an empty filter, negating that filter comes to the match again. The field and the document
may be any. -/
theorem element_matches_agree (names : Names) (x : Filter) (field : String) (steps : List Step)
    (way : Handing) :
    let d := (runSteps names steps .empty).1.document
    let condition := way.condition names steps
    let term := way.term names steps
    let scope := way.scope names steps
    let present := (x.perform (.put field (fragment .elemMatch (.document d)))).filter
    let absent := (x.perform (.put field (fragment .not (fragment .elemMatch (.document d))))).filter
    ((x.perform (.elements field condition)).filter = present ∧
        (x.perform (.elements field condition)).refusal = none) ∧
      ((x.perform (.noElements field condition)).filter = absent ∧
        (x.perform (.noElements field condition)).refusal = none) ∧
      ((Step.elements field term).run scope x).shown = (present, .changed) ∧
      ((Step.noElements field term).run scope x).shown = (absent, .changed) ∧
      (x.perform (.negate (empty.perform (.noElements field condition)).filter)).filter = present ∧
      ∀ e : Document,
        (x.perform (.negate (empty.perform (.noElements field (.raw (.document e)))).filter)).filter =
          (x.perform (.elements field (.raw (.document e)))).filter := by
  intro d condition term scope present absent
  have hcondition : condition.document = .ok d := way.document_condition names steps
  have hterm : (term.eval scope).1.document = .ok d := way.document_eval_term names steps
  refine ⟨perform_elements_of_ok hcondition x field, perform_noElements_of_ok hcondition x field,
    Step.shown_run rfl (perform_elements_of_ok hterm x field),
    Step.shown_run rfl (perform_noElements_of_ok hterm x field),
    perform_negate_noElements hcondition x field, fun e => ?_⟩
  rw [perform_negate_noElements rfl, (perform_elements_of_ok rfl x field).1]

/-- The steps leave a lone `$not`, as the second of them is refused. It is not taken for a negation. -/
example :
    let steps : List Step := [.put "$not" (.value .null), .noElements "a" (.raw (.value .null))]
    let term := Handing.deferred.term noNames steps
    ((Step.noElements "parts" term).run noNames empty).filter.document =
      [("parts", .document [("$not", .document [("$elemMatch", .document [("$not", .null)])])])] :=
  rfl

end Filter
end DocFilter
