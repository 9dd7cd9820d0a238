import DocFilter.Expansion.Rename
import DocFilter.Expansion.Route
import DocFilter.Source.Lexer
import DocFilter.Text.Words

/-!
The enum that lists the fields of a struct, each with its path in a stored document.
-/

namespace DocFilter

open Source

structure FieldVariant where
  name : String
  path : String
  deriving DecidableEq

/-- What is generated for a struct: a module of some visibility with the enum in it. -/
structure FieldEnum where
  visibility : List String
  module : String
  variants : List FieldVariant
  /-- The path of the library. -/
  route : String

def variantName (field : String) : Except ExpansionError String :=
  identifier (Text.upperCamel field)

namespace FieldVariant

def ofField (f : Field) : Except ExpansionError FieldVariant :=
  return ⟨← variantName f.name.text, (rename? f.attributes).getD f.name.text⟩

end FieldVariant

namespace FieldEnum

def path? (e : FieldEnum) (variant : String) : Option String :=
  (e.variants.find? (·.name == variant)).map (·.path)

def ofFields (route : Except ExpansionError String) (d : Declaration) (fields : List Field) :
    Except ExpansionError FieldEnum :=
  return ⟨d.visibility, ← identifier (Text.snake d.name.written),
    ← fields.mapM FieldVariant.ofField, ← route⟩

def ofDeclaration (route : Except ExpansionError String) (d : Declaration) :
    Except ExpansionError FieldEnum :=
  match d.body with
  | .other => .error .notStruct
  | .otherStruct => .error .fieldsWithoutNames
  | .fields fields => ofFields route d fields

def declaration? (source : String) : Option Declaration := do
  readAll? (← trees? source) do
    discard Reader.outerAttributes
    Reader.declaration

def ofSource (route : Except ExpansionError String) (source : String) :
    Except ExpansionError FieldEnum :=
  match declaration? source with
  | some d => ofDeclaration route d
  | none => .error .malformedSource

end FieldEnum
end DocFilter
