import DocFilter.Filter.Basic
import DocFilter.Geo.Shape
import DocFilter.Json.Compact
import DocFilter.Json.Reader

/-!
Filters and points out of JSON. An integer that is not negative takes the narrowest of the two
integer kinds, a negative one is always 64 bits wide, and one above the 64-bit integers is refused.
Extended JSON, which spells the other kinds as objects with `$` keys, is not read: such an object is
refused and not taken for a document.
-/

namespace DocFilter

namespace Json

def Number.toValue? : Number → Option Value
  | .natural n =>
    if n < 0x80000000 then some (.int32 (Int32.ofNat n))
    else if n < 0x8000000000000000 then some (.int64 (Int64.ofNat n))
    else none
  | .negative n => some (.int64 (Int64.ofInt (-n)))
  | .double x => some (.double x)
  | .outOfRange => none

/-- The deepest nesting of arrays and objects that is accepted. -/
def greatestDepth : Nat := 127

/-- The keys by which an object stands for a value of a kind that JSON lacks. -/
def extendedKeys : List String :=
  ["$oid", "$symbol", "$numberInt", "$numberLong", "$numberDouble", "$numberDecimal",
    "$numberDecimalBytes", "$binary", "$code", "$scope", "$timestamp", "$regularExpression",
    "$dbPointer", "$date", "$minKey", "$maxKey", "$undefined", "$__private__bson_RawDocument",
    "$__private__bson_RawArray"]

def isExtended (members : List (Option String × Json)) : Bool :=
  members.any (·.1.any extendedKeys.contains)

mutual

/-- `depth` counts the arrays and objects that may still be opened. -/
def toValue? : Nat → Json → Option Value
  | _, .null => some .null
  | _, .bool b => some (.bool b)
  | _, .number literal => literal.value.toValue?
  | _, .string text => text.map .string
  | 0, .array _ => none
  | depth + 1, .array items => (toValues? depth items).map .array
  | 0, .object _ => none
  | depth + 1, .object members =>
    if isExtended members then none
    else (toEntries? depth members).map fun entries => .document (Document.ofEntries entries)

def toValues? : Nat → List Json → Option (List Value)
  | _, [] => some []
  | depth, item :: rest => do
    let value ← toValue? depth item
    let values ← toValues? depth rest
    return value :: values

def toEntries? : Nat → List (Option String × Json) → Option (List (String × Value))
  | _, [] => some []
  | depth, (name, member) :: rest => do
    let name ← name
    let value ← toValue? depth member
    let entries ← toEntries? depth rest
    return (name, value) :: entries

end

/-- The one member of that name; none when it is missing or repeated. -/
def member? (members : List (Option String × Json)) (name : String) : Option Json :=
  match members.filter (·.1 == some name) with
  | [(_, value)] => some value
  | _ => none

def toDouble? : Json → Option Double
  | .number literal => literal.value.toDouble?
  | _ => none

/-- Other members than the two coordinates are not looked at, except that their names must be
texts. -/
def toPoint? : Json → Option Point
  | .array [x, y] => do
    let longitude ← x.toDouble?
    let latitude ← y.toDouble?
    return ⟨longitude, latitude⟩
  | .object members =>
    if members.any (·.1.isNone) then none else do
      let longitude ← (← member? members "longitude").toDouble?
      let latitude ← (← member? members "latitude").toDouble?
      return ⟨longitude, latitude⟩
  | _ => none

end Json

def Filter.ofJson? (text : String) : Option Filter := do
  match ← (← Json.read? text).toValue? Json.greatestDepth with
  | .document d => some ⟨d⟩
  | _ => none

def Filter.compactJson (f : Filter) : String := f.toValue.compactJson

def Point.ofJson? (text : String) : Option Point := do (← Json.read? text).toPoint?

def Point.compactJson (p : Point) : String :=
  (Value.document [("longitude", .double p.longitude), ("latitude", .double p.latitude)]).compactJson

end DocFilter
