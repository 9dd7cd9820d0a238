import DocFilter.Bson.Display
import DocFilter.Filter.Annotated
import DocFilter.Json.Decode
import DocFilter.Script.Step

/-!
Running scripts. Arguments are evaluated from left to right before the call that takes them, and
their events come first. A step inside an argument that is refused changes nothing, and the steps
after it are taken all the same. Names stand for the filters as they were before the current step
of the script.
-/

namespace DocFilter

inductive Answer where
  | truth (b : Bool)
  | stored (value : Option Value)
  | document (d : Document)
  | text (s : String)
  /-- The text that was to be read is not a filter. -/
  | unreadable

inductive StepResult where
  | changed
  | refused (cause : MalformedArgument)
  | answered (answer : Answer)

structure Effect where
  filter : Filter
  events : List Event
  result : StepResult

abbrev Names := String → Filter

def MemberTest.call (field : String) (values : List Value) : MemberTest → Call
  | .isIn => .compare field (.membership .isIn values)
  | .notIn => .compare field (.membership .notIn values)
  | .all => .all field values
  | .noneOf => .noneOf field values

def Filter.call (f : Filter) (before : List Event) (c : Call) : Effect :=
  let outcome := f.perform c
  ⟨outcome.filter, before ++ outcome.events,
    match outcome.refusal with
    | none => .changed
    | some cause => .refused cause⟩

def Filter.answer (f : Filter) (before : List Event) (a : Answer) : Effect :=
  ⟨f, before, .answered a⟩

mutual

def Term.eval (names : Names) : Term → Value × List Event
  | .value v => (v, [])
  | .array items =>
    let (values, events) := evalTerms names items
    (.array values, events)
  | .document entries =>
    let (entries, events) := evalEntries names entries
    (.document (Document.ofEntries entries), events)
  | .javascriptWithScope code scope =>
    let (entries, events) := evalEntries names scope
    (.javascriptWithScope code (Document.ofEntries entries), events)
  | .filter source =>
    let (f, events) := source.eval names
    (f.toValue, events)
  | .relation r operand =>
    let (value, events) := operand.eval names
    ((Comparison.relation r value).toValue, events)
  | .membership m operands =>
    let (values, events) := evalTerms names operands
    ((Comparison.membership m values).toValue, events)

def evalTerms (names : Names) : List Term → List Value × List Event
  | [] => ([], [])
  | term :: rest =>
    let (value, events) := term.eval names
    let (values, more) := evalTerms names rest
    (value :: values, events ++ more)

def evalEntries (names : Names) : List (String × Term) → List (String × Value) × List Event
  | [] => ([], [])
  | (key, term) :: rest =>
    let (value, events) := term.eval names
    let (entries, more) := evalEntries names rest
    ((key, value) :: entries, events ++ more)

def FilterTerm.eval (names : Names) : FilterTerm → Filter × List Event
  | .steps steps => runSteps names steps .empty
  | .document entries =>
    let (entries, events) := evalEntries names entries
    (⟨Document.ofEntries entries⟩, events)
  | .entries entries =>
    let (entries, events) := evalEntries names entries
    let constraints := entries.map Constraint.ofEntry
    (Filter.empty.addAll constraints, events ++ Filter.empty.journal constraints)
  | .named name => (names name, [])

def evalFilters (names : Names) : List FilterTerm → List Filter × List Event
  | [] => ([], [])
  | source :: rest =>
    let (f, events) := source.eval names
    let (filters, more) := evalFilters names rest
    (f :: filters, events ++ more)

def ConditionTerm.eval (names : Names) : ConditionTerm → ElementCondition × List Event
  | .finished source =>
    let (f, events) := source.eval names
    (.finished f, events)
  | .deferred steps =>
    -- a deferred condition is only ever built from an empty filter, so one run serves
    let (g, events) := runSteps names steps .empty
    (.deferred fun _ => g, events)
  | .raw term =>
    let (value, events) := term.eval names
    (.raw value, events)

def Step.run (names : Names) (f : Filter) : Step → Effect
  | .call c => f.call [] c
  | .put field value =>
    let (value, events) := value.eval names
    f.call events (.put field value)
  | .relation field r operand =>
    let (value, events) := operand.eval names
    f.call events (.compare field (.relation r value))
  | .members field test values =>
    let (values, events) := evalTerms names values
    f.call events (test.call field values)
  | .elements field condition =>
    let (condition, events) := condition.eval names
    f.call events (.elements field condition)
  | .noElements field condition =>
    let (condition, events) := condition.eval names
    f.call events (.noElements field condition)
  | .combine clause sources =>
    let (filters, events) := evalFilters names sources
    f.call events (.combine clause filters)
  | .negate source =>
    let (g, events) := source.eval names
    f.call events (.negate g)
  | .merge source =>
    let (g, events) := source.eval names
    f.call events (.merge g)
  | .extend entries =>
    let (entries, events) := evalEntries names entries
    f.call events (.extend entries)
  | .set source =>
    let (g, events) := source.eval names
    ⟨g, events, .changed⟩
  | .read text =>
    match Filter.ofJson? text with
    | some g => ⟨g, [], .changed⟩
    | none => f.answer [] .unreadable
  | .isEmpty => f.answer [] (.truth f.isEmpty)
  | .equals source =>
    let (g, events) := source.eval names
    f.answer events (.truth (f.equal g))
  | .get field => f.answer [] (.stored (Document.get? f.document field))
  | .document => f.answer [] (.document f.document)
  | .display => f.answer [] (.text (Document.display f.document))
  | .annotated => f.answer [] (.text f.annotated)
  | .compactJson => f.answer [] (.text f.compactJson)

def runSteps (names : Names) : List Step → Filter → Filter × List Event
  | [], f => (f, [])
  | step :: rest, f =>
    let effect := step.run names f
    let (g, more) := runSteps names rest effect.filter
    (g, effect.events ++ more)

end

/-- A filter that has not been used yet is empty. -/
def noNames : Names := fun _ => .empty

def Names.set (names : Names) (name : String) (f : Filter) : Names :=
  fun other => if other = name then f else names other

def runScript (names : Names) : List (String × Step) → List Effect
  | [] => []
  | (name, step) :: rest =>
    let effect := step.run names (names name)
    effect :: runScript (names.set name effect.filter) rest

end DocFilter
