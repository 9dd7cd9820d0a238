import DocFilter.Text.Identifier

/-!
How the text that is generated reaches the library, and why there may be no such text.
-/

namespace DocFilter

inductive ExpansionError where
  /-- The text is not made of tokens, or they do not follow the grammar. -/
  | malformedSource
  /-- A generated name is not an identifier. -/
  | invalidName
  | notStruct
  | fieldsWithoutNames
  deriving DecidableEq

namespace ExpansionError

/-- What is said about a declaration that has no fields to list. -/
def message? : ExpansionError → Option String
  | .notStruct => some "expected struct"
  | .fieldsWithoutNames => some "expected named fields"
  | .malformedSource | .invalidName => none

end ExpansionError

def identifier (name : String) : Except ExpansionError String :=
  if Text.isIdentifier name.toList then .ok name else .error .invalidName

/-- What the manifest of a package says about its dependencies: the name each has in the package,
and the package it is. -/
structure Manifest where
  package : String
  dependencies : List (String × String)
  devDependencies : List (String × String)

/-- The name a package has where `manifest` holds. The package itself and packages that the manifest
does not list go by their own names, and of several names the last one counts. -/
def Manifest.nameOf (manifest : Option Manifest) (package : String) : String :=
  match manifest with
  | none => package
  | some m =>
    if m.package = package then package
    else
      match (m.dependencies ++ m.devDependencies).reverse.find? (·.2 == package) with
      | some (name, _) => name.map fun c => if c = '-' then '_' else c
      | none => package

def route (manifest : Option Manifest) (package : String) : Except ExpansionError String := do
  return "::" ++ (← identifier (Manifest.nameOf manifest package))

end DocFilter
