import DocFilter.Source.Grammar.Types

/-!
Structs, enums and unions, with what is common to all declarations: visibility, parameters in angle
brackets, and the conditions on them.
-/

namespace DocFilter.Source

structure Field where
  name : Name
  /-- What the brackets of its attributes hold. -/
  attributes : List (List Tree)

inductive Body where
  /-- A struct whose fields have names. -/
  | fields (fields : List Field)
  | otherStruct
  /-- An enum or a union. -/
  | other

structure Declaration where
  visibility : List String
  name : Name
  body : Body

namespace Reader

/-- Parentheses after `pub` that do not restrict it belong to the type of an unnamed field. -/
def visibility : Reader Unit := do
  if ← keyword? "pub" then
    match ← ahead with
    | .group .paren content :: _ =>
      if atWord "in" content then
        inGroup .paren do
          keyword "in"
          modulePath
      else if ["crate", "self", "super"].any (atWord · content) && (after content).isEmpty then
        discard token
    | _ => pure ()

def afterVisibility? (ts : List Tree) : Option (List Tree) :=
  if !atWord "pub" ts then some ts
  else
    match after ts with
    | .group .paren content :: rest =>
      if atWord "in" content then
        if (afterModulePath? (after content)).any List.isEmpty then some rest else none
      else if ["crate", "self", "super"].any (atWord · content) && (after content).isEmpty then
        some rest
      else some (after ts)
    | rest => some rest

/-- Bounds after a colon, which is not written if there are none. -/
def optionalBounds (bounds : Reader Unit) : Reader Unit := do
  if ← look (atOp ":") then
    skip 1
    let (_, texts) ← captured bounds
    if !texts.isEmpty then write (":" :: texts)

def lifetimeBounds : Reader Unit :=
  repeatWhile do
    if ← look atLifetime then
      lifetime
      operator? "+"
    else return false

/-- A parameter in angle brackets; says whether it is a lifetime. -/
def parameter : Reader Bool := do
  discard outerAttributes
  if ← look atLifetime then
    lifetime
    optionalBounds lifetimeBounds
    return true
  else if ← keyword? "const" then
    discard name
    operator ":"
    discard (call (.type true))
    if ← operator? "=" then constArgument
    return false
  else if ← keyword? "_" then return false
  else
    discard name
    optionalBounds
      (boundsUpTo fun ts => ts.isEmpty || atOp "," ts || atOp ">" ts || atOp "=" ts)
    if ← operator? "=" then discard (call (.type true))
    return false

/-- Empty angle brackets are not written. -/
def parameters : Reader Unit := do
  let ts ← ahead
  if atOp "<" ts then
    if atOp ">" (after ts) then skip 2 else angled parameter

def atParameters (ts : List Tree) : Bool :=
  let next := after ts
  let third := after next
  atOp "<" ts && (atOp ">" next || atOp "#" next || atWord "const" next ||
    ((atLifetime next || atName next) &&
      (atOp ">" third || atOp "," third || atOp "=" third || (atOp ":" third && !atOp "::" third))))

def atConditionEnd (ts : List Tree) : Bool :=
  ts.isEmpty || atGroup .brace ts || atOp "," ts || atOp ";" ts || atOp "=" ts ||
    (atOp ":" ts && !atOp "::" ts)

def condition : Reader Unit := do
  let ts ← ahead
  if atLifetime ts && atOp ":" (after ts) then
    lifetime
    operator ":"
    lifetimeBounds
  else
    discard boundLifetimes?
    discard (call (.type true))
    operator ":"
    boundsUpTo atConditionEnd

/-- A `where` without conditions is not written. -/
def conditions : Reader Unit := do
  if ← look (atWord "where") then
    skip 1
    require (!(← look atParameters))
    let (_, texts) ← captured (repeatWhile do
      if atConditionEnd (← ahead) then return false
      condition
      operator? ",")
    if !texts.isEmpty then write ("where" :: texts)

def heldAttributes : Reader (List (List Tree)) :=
  iterate [] fun held => do
    let ts ← ahead
    if atOp "#" ts then
      outerAttribute
      match after ts with
      | .group _ content :: _ => return (held ++ [content], true)
      | _ => fail
    else return (held, false)

def namedField : Reader Field := do
  let attributes ← heldAttributes
  visibility
  let unnamed ← look (atWord "_")
  let name ← if unnamed then anyWord else name
  operator ":"
  let ts ← ahead
  if unnamed && (atWord "struct" ts || (atWord "union" ts && atGroup .brace (after ts))) then
    discard anyWord
    discard (call .fields)
  else discard (call (.type true))
  return ⟨name, attributes⟩

def namedFields : Reader (List Field) :=
  inGroup .brace (commaSeparated namedField)

def unnamedFields : Reader Unit :=
  discard (inGroup .paren (commaSeparated do
    discard outerAttributes
    visibility
    discard (call (.type true))))

/-- A struct with unnamed fields, or without any, ends with a semicolon. -/
def structBody : Reader Body := do
  let ts ← ahead
  if atGroup .paren ts then
    unnamedFields
    conditions
    operator ";"
    return .otherStruct
  else
    conditions
    if ← look (atGroup .brace) then return .fields (← namedFields)
    else
      operator ";"
      return .otherStruct

/-- A case of an enum. A visibility before it is not written. -/
def enumCase : Reader Unit := do
  discard outerAttributes
  discard (captured visibility)
  discard name
  let ts ← ahead
  if atGroup .brace ts then discard namedFields
  else if atGroup .paren ts then unnamedFields
  if ← operator? "=" then discard (call (.expression true))

def declaration : Reader Declaration := do
  let (_, visible) ← captured visibility
  write visible
  let word ← anyWord
  require (word.written = "struct" ∨ word.written = "enum" ∨ word.written = "union")
  let name ← name
  parameters
  if word.text = "struct" then return ⟨visible, name, ← structBody⟩
  else
    conditions
    if word.text = "enum" then discard (inGroup .brace (commaSeparated enumCase))
    else discard namedFields
    return ⟨visible, name, .other⟩

end Reader
end DocFilter.Source
