import DocFilter.Bson.Value

/-!
The kinds of values that a type test can name, each with the number and the word that stand for it
in a filter. The two numbers outside 1 to 19 belong to the least and the greatest key.
-/

namespace DocFilter

inductive Kind where
  | double | string | object | array | binary | undefined | objectId | boolean | date | null
  | regex | dbPointer | javascript | symbol | javascriptWithScope | int32 | timestamp | int64
  | decimal128 | minKey | maxKey
  deriving DecidableEq

namespace Kind

/-- Every kind, in the order in which kinds are compared. -/
def all : List Kind :=
  [double, string, object, array, binary, undefined, objectId, boolean, date, null, regex,
    dbPointer, javascript, symbol, javascriptWithScope, int32, timestamp, int64, decimal128,
    minKey, maxKey]

def rank (k : Kind) : Nat := all.idxOf k

def compare (a b : Kind) : Ordering := Ord.compare a.rank b.rank

def tag : Kind → Int32
  | double => 1 | string => 2 | object => 3 | array => 4 | binary => 5 | undefined => 6
  | objectId => 7 | boolean => 8 | date => 9 | null => 10 | regex => 11 | dbPointer => 12
  | javascript => 13 | symbol => 14 | javascriptWithScope => 15 | int32 => 16 | timestamp => 17
  | int64 => 18 | decimal128 => 19 | minKey => -1 | maxKey => 127

def «alias» : Kind → String
  | double => "double" | string => "string" | object => "object" | array => "array"
  | binary => "binData" | undefined => "undefined" | objectId => "objectId" | boolean => "bool"
  | date => "date" | null => "null" | regex => "regex" | dbPointer => "dbPointer"
  | javascript => "javascript" | symbol => "symbol"
  | javascriptWithScope => "javascriptWithScope" | int32 => "int" | timestamp => "timestamp"
  | int64 => "long" | decimal128 => "decimal" | minKey => "minKey" | maxKey => "maxKey"

def name : Kind → String
  | double => "Double" | string => "String" | object => "Object" | array => "Array"
  | binary => "Binary" | undefined => "Undefined" | objectId => "ObjectId" | boolean => "Boolean"
  | date => "Date" | null => "Null" | regex => "Regex" | dbPointer => "DbPointer"
  | javascript => "JavaScript" | symbol => "Symbol"
  | javascriptWithScope => "JavaScriptWithScope" | int32 => "Int32" | timestamp => "Timestamp"
  | int64 => "Int64" | decimal128 => "Decimal128" | minKey => "MinKey" | maxKey => "MaxKey"

/-- The name of the storage format of the kind, which differs from `name` for some of them. -/
def element : Kind → String
  | object => "EmbeddedDocument"
  | date => "DateTime"
  | regex => "RegularExpression"
  | javascript => "JavaScriptCode"
  | javascriptWithScope => "JavaScriptCodeWithScope"
  | k => k.name

def ofTag? (n : Int32) : Option Kind := all.find? (·.tag == n)

def ofName? (s : String) : Option Kind := all.find? (·.name == s)

/-- In a filter a kind is written as its number. -/
def toValue (k : Kind) : Value := .int32 k.tag

theorem mem_all (k : Kind) : k ∈ all := by cases k <;> decide

theorem ofTag?_tag (k : Kind) : ofTag? k.tag = some k := by cases k <;> decide

theorem ofName?_name (k : Kind) : ofName? k.name = some k := by cases k <;> decide

end Kind

def Value.kind : Value → Kind
  | .double _ => .double
  | .string _ => .string
  | .document _ => .object
  | .array _ => .array
  | .binary .. => .binary
  | .undefined => .undefined
  | .objectId _ => .objectId
  | .bool _ => .boolean
  | .dateTime _ => .date
  | .null => .null
  | .regex .. => .regex
  | .dbPointer .. => .dbPointer
  | .javascript _ => .javascript
  | .symbol _ => .symbol
  | .javascriptWithScope .. => .javascriptWithScope
  | .int32 _ => .int32
  | .timestamp .. => .timestamp
  | .int64 _ => .int64
  | .decimal128 _ => .decimal128
  | .minKey => .minKey
  | .maxKey => .maxKey

end DocFilter
