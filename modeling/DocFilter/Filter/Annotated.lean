import DocFilter.Filter.Call
import DocFilter.Number.Layout
import DocFilter.Text.Quoted
import DocFilter.Text.Bytes

/-!
The text of a value that names the kind of every part of it, with strings and keys quoted and
escaped.
-/

namespace DocFilter

def named (name body : String) : String := name ++ "(" ++ body ++ ")"

def byteList (bytes : List UInt8) : String :=
  "[" ++ ", ".intercalate (bytes.map fun b => toString b.toNat) ++ "]"

mutual

def Value.annotated : Value → String
  | .double x => named "Double" (Layout.annotated.text x)
  | .string s => named "String" (Text.quoted s)
  | .document [] => "Document(\x7b\x7d)"
  | .document (entry :: rest) =>
    "Document(\x7b" ++ annotatedEntry entry ++ annotatedEntries rest ++ "\x7d)"
  | .array [] => "Array([])"
  | .array (item :: rest) => "Array([" ++ item.annotated ++ annotatedItems rest ++ "])"
  | .binary subtype bytes =>
    "Binary \x7b subtype: " ++ toString subtype.toNat ++ ", bytes: " ++ byteList bytes ++ " \x7d"
  | .undefined => "Undefined"
  | .objectId bytes => named "ObjectId" ("\"" ++ Text.hex bytes ++ "\"")
  | .bool b => named "Boolean" (if b then "true" else "false")
  | .dateTime millis => named "DateTime" (toString millis.toInt)
  | .null => "Null"
  | .regex pattern options =>
    "Regex \x7b pattern: " ++ Text.quoted pattern ++ ", options: " ++ Text.quoted options ++ " \x7d"
  | .dbPointer collection id =>
    "DbPointer \x7b namespace: " ++ Text.quoted collection ++ ", id: " ++
      named "ObjectId" ("\"" ++ Text.hex id ++ "\"") ++ " \x7d"
  | .javascript code => named "JavaScriptCode" (Text.quoted code)
  | .symbol s => named "Symbol" (Text.quoted s)
  | .javascriptWithScope code [] =>
    "JavaScriptCodeWithScope \x7b code: " ++ Text.quoted code ++ ", scope: Document(\x7b\x7d) \x7d"
  | .javascriptWithScope code (entry :: rest) =>
    "JavaScriptCodeWithScope \x7b code: " ++ Text.quoted code ++ ", scope: Document(\x7b" ++
      annotatedEntry entry ++ annotatedEntries rest ++ "\x7d) \x7d"
  | .int32 n => named "Int32" (toString n.toInt)
  | .timestamp time increment =>
    "Timestamp \x7b time: " ++ toString time.toNat ++ ", increment: " ++
      toString increment.toNat ++ " \x7d"
  | .int64 n => named "Int64" (toString n.toInt)
  | .decimal128 bytes => named "Decimal128" (Text.hex bytes)
  | .minKey => "MinKey"
  | .maxKey => "MaxKey"

def annotatedEntry : String × Value → String
  | (key, value) => Text.quoted key ++ ": " ++ value.annotated

def annotatedEntries : List (String × Value) → String
  | [] => ""
  | entry :: rest => ", " ++ annotatedEntry entry ++ annotatedEntries rest

def annotatedItems : List Value → String
  | [] => ""
  | item :: rest => ", " ++ item.annotated ++ annotatedItems rest

end

def Filter.annotated (f : Filter) : String :=
  "Expression \x7b document: " ++ f.toValue.annotated ++ " \x7d"

/-- A deferred condition has nothing to show yet. -/
def ElementCondition.annotated : ElementCondition → String
  | .finished f => named "Expression" f.annotated
  | .deferred _ => "Deferred(..)"
  | .raw value => named "Raw" value.annotated

end DocFilter
