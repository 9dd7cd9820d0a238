import DocFilter.Source.Grammar

/-!
The name that the `serde` attributes of a field give it. They count only as long as they hold no
more than one setting, `rename` with a string; whatever else they hold hides it.
-/

namespace DocFilter

open Source

inductive Setting where
  | literal
  /-- An entry with a key. It has a text if that is what stands after its equals sign. -/
  | keyed (key : String) (text : Option String)

namespace Setting

/-- The words of a key, a `::` before all of them being left out. -/
def key : Reader String := do
  discard (Reader.operator? "::")
  let first ← Reader.anyWord
  Reader.iterate first.written fun words => do
    if ← Reader.operator? "::" then
      let word ← Reader.anyWord
      return (words ++ "::" ++ word.written, true)
    else return (words, false)

def text? : Form → Option String
  | .literal text => stringValue? text
  | _ => none

/-- A truth value before an equals sign is a key. -/
def read : Reader Setting := do
  let ts ← Reader.ahead
  if atLiteral ts && !(atAnyWord ts && atOp "=" (after ts)) then
    Reader.literal
    return .literal
  else
    let key ← key
    let ts ← Reader.ahead
    if Delimiter.all.any (atGroup · ts) then
      discard Reader.anyGroup
      return .keyed key none
    else if ← Reader.operator? "=" then
      Reader.require (!atAttribute (← Reader.ahead))
      return .keyed key (text? (← Reader.call (.expression true)))
    else return .keyed key none

end Setting

/-- An attribute is given by what its brackets hold. -/
def isSerde : List Tree → Bool
  | .word name raw :: rest => !raw && name == "serde" && !atOp "::" rest
  | _ => false

/-- The settings in a `serde` attribute; without a list there are none. -/
def settings? (content : List Tree) : Option (List Setting) :=
  match after content with
  | [] => some []
  | [.group _ list] => readAll? list (Reader.commaSeparated Setting.read)
  | _ => none

def rename? (attributes : List (List Tree)) : Option String := do
  let settings ← (attributes.filter isSerde).mapM settings?
  match settings.flatten with
  | [.keyed "rename" text] => text
  | _ => none

end DocFilter
