import DocFilter.Bson.Value

/-!
Equality of values. Documents are compared without regard to the order of their keys, at every
level; arrays in order; doubles as numbers; values of different kinds are never equal.
-/

namespace DocFilter

mutual

def Value.equal : Value → Value → Bool
  | .double x, .double y => x.equal y
  | .string s, .string t => s == t
  | .document es, .document ds => es.length == ds.length && equalEntries es ds
  | .array xs, .array ys => equalItems xs ys
  | .binary s xs, .binary t ys => s == t && xs == ys
  | .undefined, .undefined => true
  | .objectId xs, .objectId ys => xs == ys
  | .bool a, .bool b => a == b
  | .dateTime a, .dateTime b => a == b
  | .null, .null => true
  | .regex p o, .regex q u => p == q && o == u
  | .dbPointer c xs, .dbPointer d ys => c == d && xs == ys
  | .javascript c, .javascript d => c == d
  | .symbol s, .symbol t => s == t
  | .javascriptWithScope c es, .javascriptWithScope d ds =>
    c == d && (es.length == ds.length && equalEntries es ds)
  | .int32 m, .int32 n => m == n
  | .timestamp a i, .timestamp b j => a == b && i == j
  | .int64 m, .int64 n => m == n
  | .decimal128 xs, .decimal128 ys => xs == ys
  | .minKey, .minKey => true
  | .maxKey, .maxKey => true
  | _, _ => false

def equalEntries : List (String × Value) → List (String × Value) → Bool
  | [], _ => true
  | (key, value) :: rest, ds =>
    (match Document.get? ds key with
      | some other => value.equal other
      | none => false) && equalEntries rest ds

def equalItems : List Value → List Value → Bool
  | [], [] => true
  | x :: xs, y :: ys => x.equal y && equalItems xs ys
  | _, _ => false

end

def Document.equal (d e : Document) : Bool := d.length == e.length && equalEntries d e

end DocFilter
