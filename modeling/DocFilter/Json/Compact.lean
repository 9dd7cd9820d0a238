import DocFilter.Bson.Value
import DocFilter.Number.Layout
import DocFilter.Text.Bytes

/-!
The compact JSON text of a value. Entries keep their order, nothing is spaced, and a double without
a finite value is written as null. The kinds that JSON lacks are objects with one `$` key.
-/

namespace DocFilter
namespace Json

def escapedChar (c : Char) : List Char :=
  if c = '"' then ['\\', '"']
  else if c = '\\' then ['\\', '\\']
  else if c = '\n' then ['\\', 'n']
  else if c = '\r' then ['\\', 'r']
  else if c = '\t' then ['\\', 't']
  else if c = '\x08' then ['\\', 'b']
  else if c = '\x0c' then ['\\', 'f']
  else if c.toNat < 0x20 then ['\\', 'u', '0', '0'] ++ Text.hexByte (UInt8.ofNat c.toNat)
  else [c]

def stringText (s : String) : String :=
  "\"" ++ String.ofList (s.toList.flatMap escapedChar) ++ "\""

def doubleText (x : Double) : String :=
  match x.magnitude with
  | .finite .. => Layout.interchange.text x
  | _ => "null"

def tagged (key member : String) : String := "\x7b\"" ++ key ++ "\":" ++ member ++ "\x7d"

def paired (key member key' member' : String) : String :=
  "\x7b\"" ++ key ++ "\":" ++ member ++ ",\"" ++ key' ++ "\":" ++ member' ++ "\x7d"

end Json

mutual

def Value.compactJson : Value → String
  | .double x => Json.doubleText x
  | .string s => Json.stringText s
  | .document [] => "\x7b\x7d"
  | .document (entry :: rest) =>
    "\x7b" ++ compactMember entry ++ compactMembers rest ++ "\x7d"
  | .array [] => "[]"
  | .array (item :: rest) => "[" ++ item.compactJson ++ compactItems rest ++ "]"
  | .binary subtype bytes =>
    Json.tagged "$binary" (Json.paired "base64" (Json.stringText (Text.base64 bytes)) "subType"
      (Json.stringText (String.ofList (Text.hexByte subtype))))
  | .undefined => Json.tagged "$undefined" "true"
  | .objectId bytes => Json.tagged "$oid" (Json.stringText (Text.hex bytes))
  | .bool b => if b then "true" else "false"
  | .dateTime millis =>
    Json.tagged "$date" (Json.tagged "$numberLong" (Json.stringText (toString millis.toInt)))
  | .null => "null"
  | .regex pattern options =>
    Json.tagged "$regularExpression" (Json.paired "pattern" (Json.stringText pattern) "options"
      (Json.stringText options))
  | .dbPointer collection id =>
    Json.tagged "$dbPointer" (Json.paired "$ref" (Json.stringText collection) "$id"
      (Json.tagged "$oid" (Json.stringText (Text.hex id))))
  | .javascript code => Json.tagged "$code" (Json.stringText code)
  | .symbol s => Json.tagged "$symbol" (Json.stringText s)
  | .javascriptWithScope code [] =>
    Json.paired "$code" (Json.stringText code) "$scope" "\x7b\x7d"
  | .javascriptWithScope code (entry :: rest) =>
    Json.paired "$code" (Json.stringText code) "$scope"
      ("\x7b" ++ compactMember entry ++ compactMembers rest ++ "\x7d")
  | .int32 n => toString n.toInt
  | .timestamp time increment =>
    Json.tagged "$timestamp" (Json.paired "t" (toString time.toNat) "i" (toString increment.toNat))
  | .int64 n => toString n.toInt
  | .decimal128 bytes =>
    Json.tagged "$numberDecimalBytes" (Json.stringText (Text.base64 bytes))
  | .minKey => Json.tagged "$minKey" "1"
  | .maxKey => Json.tagged "$maxKey" "1"

def compactMember : String × Value → String
  | (key, value) => Json.stringText key ++ ":" ++ value.compactJson

def compactMembers : List (String × Value) → String
  | [] => ""
  | entry :: rest => "," ++ compactMember entry ++ compactMembers rest

def compactItems : List Value → String
  | [] => ""
  | item :: rest => "," ++ item.compactJson ++ compactItems rest

end

end DocFilter
