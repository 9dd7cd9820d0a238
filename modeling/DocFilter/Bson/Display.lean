import DocFilter.Bson.Value
import DocFilter.Number.Layout
import DocFilter.Text.Bytes

/-!
The plain text of a value. Strings and keys stand between double quotes without any escaping, so
the text is for reading only.
-/

namespace DocFilter

def plainString (s : String) : String := "\"" ++ s ++ "\""

mutual

def Value.display : Value → String
  | .double x => Layout.plain.text x
  | .string s => plainString s
  | .document [] => "\x7b\x7d"
  | .document (entry :: rest) => "\x7b " ++ displayEntry entry ++ displayEntries rest ++ " \x7d"
  | .array [] => "[]"
  | .array (item :: rest) => "[" ++ item.display ++ displayItems rest ++ "]"
  | .binary subtype bytes =>
    "Binary(0x" ++ String.ofList (Nat.toDigits 16 subtype.toNat) ++ ", " ++ Text.base64 bytes ++ ")"
  | .undefined => "undefined"
  | .objectId bytes => "ObjectId(\"" ++ Text.hex bytes ++ "\")"
  | .bool b => if b then "true" else "false"
  | .dateTime millis => "DateTime(" ++ toString millis.toInt ++ ")"
  | .null => "null"
  | .regex pattern options => "/" ++ pattern ++ "/" ++ options
  | .dbPointer collection id => "DbPointer(" ++ collection ++ ", " ++ Text.hex id ++ ")"
  | .javascript code => code
  | .symbol s => "Symbol(\"" ++ s ++ "\")"
  | .javascriptWithScope code _ => code
  | .int32 n => toString n.toInt
  | .timestamp time increment =>
    "Timestamp(" ++ toString time.toNat ++ ", " ++ toString increment.toNat ++ ")"
  | .int64 n => toString n.toInt
  | .decimal128 bytes => "Decimal128(" ++ Text.hex bytes ++ ")"
  | .minKey => "MinKey"
  | .maxKey => "MaxKey"

def displayEntry : String × Value → String
  | (key, value) => plainString key ++ ": " ++ value.display

def displayEntries : List (String × Value) → String
  | [] => ""
  | entry :: rest => ", " ++ displayEntry entry ++ displayEntries rest

def displayItems : List Value → String
  | [] => ""
  | item :: rest => ", " ++ item.display ++ displayItems rest

end

def Document.display (d : Document) : String := (Value.document d).display

end DocFilter
