import DocFilter.Filter.Basic
import DocFilter.Geo.Distance
import DocFilter.Geo.Shape

/-!
The calls that a filter answers, with their arguments, and the constraints that each of them comes
down to. No constraint depends on the filter it is added to. The one call that can be refused is a
match of array elements against a value that is not a document, and it then adds nothing.
-/

namespace DocFilter

inductive ElementCondition where
  /-- A filter that is finished already. -/
  | finished (f : Filter)
  /-- A filter that is built from an empty one when the call is made. -/
  | deferred (build : Filter → Filter)
  /-- A value, which must be a document. -/
  | raw (value : Value)

namespace ElementCondition

def document : ElementCondition → Except MalformedArgument Document
  | .finished f => .ok f.document
  | .deferred build => .ok (build .empty).document
  | .raw (.document d) => .ok d
  | .raw value => .error (.elementCondition value.kind)

end ElementCondition

inductive Clause where
  | or | and | nor
  deriving DecidableEq

def Clause.keyword : Clause → Keyword
  | .or => .or
  | .and => .and
  | .nor => .nor

inductive Region where
  /-- One of the three shapes; see `Call.intersects` for any other. -/
  | shape (s : Shape)
  | circle (center : Point) (radius : Double)
  | sphericalCircle (center : Point) (radius : Double)
  | box (bottomLeft upperRight : Point)
  | polygon (vertices : List Point)

def Region.fragment : Region → Value
  | .shape s => DocFilter.fragment .geometry (.document s.toDocument)
  | .circle center radius => DocFilter.fragment .center (.array [center.position, .double radius])
  | .sphericalCircle center radius =>
    DocFilter.fragment .centerSphere (.array [center.position, .double radius])
  | .box bottomLeft upperRight =>
    DocFilter.fragment .box (.array [bottomLeft.position, upperRight.position])
  | .polygon vertices => DocFilter.fragment .polygon (positions vertices)

inductive Call where
  | put (field : String) (value : Value)
  | compare (field : String) (comparison : Comparison)
  | present (field : String) (wanted : Bool)
  | hasType (field : String) (tag : Int32)
  | isArray (field : String)
  | script (condition : String)
  | like (field pattern : String) (insensitive : Bool)
  | all (field : String) (values : List Value)
  | noneOf (field : String) (values : List Value)
  | size (field : String) (length : Int64)
  | elements (field : String) (condition : ElementCondition)
  | noElements (field : String) (condition : ElementCondition)
  | vacant (field : String)
  | notVacant (field : String)
  | combine (clause : Clause) (filters : List Filter)
  | negate (f : Filter)
  | merge (f : Filter)
  | extend (entries : List (String × Value))
  | near (spherical : Bool) (field : String) (p : Point) (distance : Distance)
  /-- The shape is one of the three that there are here. What another geometry object `d` adds is
  `put field (fragment .geoIntersects (fragment .geometry (.document d)))`. -/
  | intersects (field : String) (s : Shape)
  | within (field : String) (region : Region)

/-- The filters of which one holds where a field is null, an empty string, an empty array or
missing. -/
def vacantArms (field : String) : List Constraint :=
  [⟨field, .null, none⟩, ⟨field, .string "", none⟩, ⟨field, .array [], none⟩,
    ⟨field, fragment .present (.bool false), none⟩]

def clause (c : Clause) (filters : List Filter) : Constraint :=
  ⟨c.keyword.text, .array (filters.map Filter.toValue), none⟩

def nearFragment (spherical : Bool) (p : Point) (distance : Distance) : Value :=
  let bound (k : Keyword) (x : Option Double) : Document :=
    match x with
    | none => []
    | some x => [(k.text, .double x)]
  let (least, greatest) := distance.bounds
  fragment (if spherical then .nearSphere else .near)
    (.document ((Keyword.geometry.text, .document (Shape.point p).toDocument) ::
      (bound .minDistance least ++ bound .maxDistance greatest)))

namespace Call

def isPresent (field : String) : Call := .present field true

def isMissing (field : String) : Call := .present field false

def ofKind (k : Kind) (field : String) : Call := .hasType field k.tag

def isDouble : String → Call := ofKind .double

def isString : String → Call := ofKind .string

def isObject : String → Call := ofKind .object

def isBoolean : String → Call := ofKind .boolean

/-- The kind of an array is tested item by item, so this is no test for an array. -/
def isArrayOfArrays : String → Call := ofKind .array

def isObjectId : String → Call := ofKind .objectId

def isDate : String → Call := ofKind .date

def isNull : String → Call := ofKind .null

def elementMatch? : Call → Option (String × ElementCondition)
  | .elements field condition | .noElements field condition => some (field, condition)
  | _ => none

def negations (f : Filter) : List Constraint := f.document.map Constraint.ofNegated

/-- The filters that the call builds on the side, each from the one constraint. -/
def aside : Call → Except MalformedArgument (List Constraint)
  | .vacant field | .notVacant field => .ok (vacantArms field)
  | .noElements field condition =>
    return [⟨field, fragment .elemMatch (.document (← condition.document)), none⟩]
  | _ => .ok []

def constraints : Call → Except MalformedArgument (List Constraint)
  | .put field value => .ok [⟨field, value, none⟩]
  | .compare field comparison => .ok [⟨field, comparison.toValue, none⟩]
  | .present field wanted => .ok [⟨field, fragment .present (.bool wanted), none⟩]
  | .hasType field tag => .ok [⟨field, fragment .type (.int32 tag), none⟩]
  | .isArray field =>
    .ok [⟨Keyword.script.text, .string ("Array.isArray(this." ++ field ++ ")"), none⟩]
  | .script condition => .ok [⟨Keyword.script.text, .string condition, none⟩]
  | .like field pattern insensitive =>
    .ok [⟨field, .document [(Keyword.regex.text, .string pattern),
      (Keyword.options.text, .string (if insensitive then "i" else ""))], none⟩]
  | .all field values => .ok [⟨field, fragment .all (.array values), none⟩]
  | .noneOf field values =>
    .ok [⟨field, fragment .not (fragment .all (.array values)), none⟩]
  | .size field length => .ok [⟨field, fragment .size (.int64 length), none⟩]
  | .elements field condition =>
    return [⟨field, fragment .elemMatch (.document (← condition.document)), none⟩]
  | .noElements field condition =>
    return negations (Filter.empty.add field
      (fragment .elemMatch (.document (← condition.document))))
  | .vacant field =>
    .ok [clause .or ((vacantArms field).map fun c => Filter.empty.addAll [c])]
  | .notVacant field =>
    .ok [clause .nor ((vacantArms field).map fun c => Filter.empty.addAll [c])]
  | .combine c filters => .ok [clause c filters]
  | .negate f => .ok (negations f)
  | .merge f => .ok (f.document.map Constraint.ofEntry)
  | .extend entries => .ok (entries.map Constraint.ofEntry)
  | .near spherical field p distance => .ok [⟨field, nearFragment spherical p distance, none⟩]
  | .intersects field s =>
    .ok [⟨field, fragment .geoIntersects (fragment .geometry (.document s.toDocument)), none⟩]
  | .within field region => .ok [⟨field, fragment .geoWithin region.fragment, none⟩]

end Call

structure Outcome where
  filter : Filter
  events : List Event
  refusal : Option MalformedArgument

namespace Filter

/-- A refused call leaves the filter as it was and records the refusal alone. -/
def perform (f : Filter) (c : Call) : Outcome :=
  match c.aside, c.constraints with
  | .ok aside, .ok constraints =>
    ⟨f.addAll constraints,
      aside.flatMap (fun a => Filter.empty.journal [a]) ++ f.journal constraints, none⟩
  | .error e, _ | _, .error e =>
    ⟨f, c.elementMatch?.toList.map (fun m => .refusing m.1 e), some e⟩

end Filter
end DocFilter
