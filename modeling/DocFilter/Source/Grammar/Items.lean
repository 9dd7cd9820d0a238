import DocFilter.Source.Grammar.Declarations
import DocFilter.Source.Grammar.Statements

/-!
Items: everything that can be declared in a block.
-/

namespace DocFilter.Source.Reader

def functionWords : Reader Unit := do
  ["const", "async", "unsafe"].forM fun word => discard (keyword? word)
  if ← keyword? "extern" then
    if ← look atStringLiteral then discard token

def afterFunctionWords (ts : List Tree) : List Tree :=
  let step (ts : List Tree) (word : String) := if atWord word ts then after ts else ts
  let rest := ["const", "async", "unsafe"].foldl step ts
  if atWord "extern" rest then
    if atStringLiteral (after rest) then after (after rest) else after rest
  else rest

def atFunctionItem (ts : List Tree) : Bool := atWord "fn" (afterFunctionWords ts)

def receiver : Reader Unit := do
  let borrowed ← operator? "&"
  if borrowed && (← look atLifetime) then lifetime
  discard (keyword? "mut")
  keyword "self"
  if !borrowed && (← operator? ":") then discard (call (.type true))

/-- A method is called on what stands ahead. A colon must begin a type there, and no path and no three
points. -/
def atReceiver (ts : List Tree) : Bool :=
  let borrowed := atOp "&" ts
  let ts := if borrowed then after ts else ts
  let ts := if borrowed && atLifetime ts then after ts else ts
  let ts := if atWord "mut" ts then after ts else ts
  let typed := after (after ts)
  atWord "self" ts && (borrowed || !atOp ":" (after ts) ||
    !(atOp "..." typed || (atOp ":" typed && !atOp "::" typed)))

/-- Three points stand for any number of arguments and come last. -/
def openEnd : Reader Bool := do
  if ← operator? "..." then
    discard (operator? ",")
    require (← atEnd)
    return true
  else return false

/-- One argument; says whether a method is called on it. -/
def functionArgument : Reader Bool := do
  discard outerAttributes
  if ← openEnd then return false
  else if ← look atReceiver then
    receiver
    return true
  else
    let ts ← ahead
    if atName ts && atOp "<" (after ts) then
      write ["_", ":"]
      discard (call (.type true))
    else
      discard (call .singlePattern)
      operator ":"
      if !(← openEnd) then discard (call (.type true))
    return false

def signature : Reader Unit := do
  functionWords
  keyword "fn"
  discard name
  parameters
  let receivers ← inGroup .paren (commaSeparated functionArgument)
  require (!receivers.tail.contains true)
  discard (returnType true)
  conditions

/-- A function without a body ends with a semicolon. -/
def function : Reader Unit := do
  signature
  if !(← operator? ";") then attributedBlock

def nameOrBlank : Reader Unit := do
  if !(← keyword? "_") then discard name

def constant : Reader Unit := do
  keyword "const"
  nameOrBlank
  parameters
  operator ":"
  discard (call (.type true))
  if ← operator? "=" then discard (call (.expression true))
  conditions
  operator ";"

def staticItem : Reader Unit := do
  keyword "static"
  discard (keyword? "mut")
  discard name
  if ← operator? ":" then discard (call (.type true)) else require (← look (atOp "="))
  if ← operator? "=" then discard (call (.expression true))
  operator ";"

/-- Bounds up to what follows them; unlike elsewhere, they are written with their plus signs. -/
def boundsBefore (ends : List Tree → Bool) : Reader Unit :=
  repeatWhile do
    if ends (← ahead) then return false
    discard (call (.bound false true))
    if ends (← ahead) then return false
    operator "+"
    return true

/-- The name of a type. Among the items of a type its conditions stand at the end. -/
def typeItem (associated : Bool) : Reader Unit := do
  keyword "type"
  discard name
  parameters
  if ← operator? ":" then
    boundsBefore fun ts => atWord "where" ts || atOp "=" ts || atOp ";" ts
  if !associated then conditions
  if ← operator? "=" then discard (call (.type true))
  if associated then conditions
  operator ";"

def imports (rooted : Bool) : Reader Unit := do
  let ts ← ahead
  if atName ts || atPathWord ts || atWord "try" ts then
    discard anyWord
    if ← operator? "::" then discard (call (.imports false))
    else if ← keyword? "as" then nameOrBlank
  else if atGroup .brace ts then
    discard (inGroup .brace (commaSeparated do
      let outside ← if rooted then operator? "::" else pure false
      call (.imports (rooted && !outside))))
  else operator "*"

def useItem : Reader Unit := do
  keyword "use"
  let outside ← operator? "::"
  discard (call (.imports (!outside)))
  operator ";"

def externalCrate : Reader Unit := do
  keyword "extern"
  keyword "crate"
  if !(← keyword? "self") then discard name
  if ← keyword? "as" then nameOrBlank
  operator ";"

/-- A macro call among items ends with a semicolon unless it has braces. -/
def macroItem : Reader Unit := do
  modulePath
  operator "!"
  if ← look (atWord "try") then discard anyWord
  else if ← look atName then discard name
  if (← anyGroup) ≠ .brace then operator ";"

def associatedItem : Reader Unit := do
  discard outerAttributes
  let (_, front) ← captured do
    visibility
    let ts ← ahead
    if atWord "default" ts && !atOp "!" (after ts) then keyword "default"
  write front
  if ← look atFunctionItem then function
  else if ← look (atWord "const") then constant
  else if ← look (atWord "type") then typeItem true
  else
    require front.isEmpty
    macroItem

def associatedItems : Reader Unit :=
  inGroup .brace do
    innerAttributes
    repeatWhile do
      if ← atEnd then return false
      associatedItem
      return true

def traitItem : Reader Unit := do
  let marked ← keyword? "unsafe"
  let auto ← keyword? "auto"
  keyword "trait"
  discard name
  parameters
  if !marked && !auto && (← operator? "=") then
    boundsBefore fun ts => atWord "where" ts || atOp ";" ts
    conditions
    operator ";"
  else
    optionalBounds (boundsBefore fun ts => atWord "where" ts || atGroup .brace ts)
    conditions
    associatedItems

/-- Only the path of a trait can be negated. -/
def implementation : Reader Unit := do
  discard (keyword? "default")
  discard (keyword? "unsafe")
  keyword "impl"
  if ← look atParameters then parameters
  discard (operator? "?")
  discard (keyword? "const")
  let ts ← ahead
  let negative := atOp "!" ts && !atGroup .brace (after ts)
  if negative then operator "!"
  discard (call (.type true))
  if ← keyword? "for" then discard (call (.type true)) else require (!negative)
  conditions
  associatedItems

def itemsOf (item : Reader Unit) : Reader Unit :=
  inGroup .brace do
    innerAttributes
    repeatWhile do
      if ← atEnd then return false
      item
      return true

def moduleItem : Reader Unit := do
  discard (keyword? "unsafe")
  keyword "mod"
  if !(← keyword? "try") then discard name
  if !(← operator? ";") then itemsOf (discard (call .item))

def foreignItem : Reader Unit := do
  discard outerAttributes
  let (_, front) ← captured visibility
  write front
  let ts ← ahead
  let safe := atWord "safe" ts && (atWord "fn" (after ts) || atWord "static" (after ts))
  if safe then keyword "safe"
  if ← look atFunctionItem then function
  else if atWord "unsafe" ts && atWord "static" (after ts) then
    keyword "unsafe"
    staticItem
  else if ← look (atWord "static") then staticItem
  else if ← look (atWord "type") then typeItem false
  else
    require (front.isEmpty && !safe)
    macroItem

def foreignItems : Reader Unit := do
  discard (keyword? "unsafe")
  keyword "extern"
  if ← look atStringLiteral then discard token
  itemsOf foreignItem

def macroDefinition : Reader Unit := do
  keyword "macro"
  discard name
  if ← look (atGroup .paren) then discard token
  require (← look (atGroup .brace))
  discard token

def item : Reader Unit := do
  discard outerAttributes
  let declared := afterVisibility? (← ahead)
  let ts := declared.getD []
  let next := after ts
  let exposed ← look (atWord "pub")
  let visible (r : Reader Unit) : Reader Unit := do
    visibility
    r
  let atTrait (ts : List Tree) := atWord "trait" ts || (atWord "auto" ts && atWord "trait" (after ts))
  if declared.any atFunctionItem then visible function
  else if atWord "extern" ts then
    if atWord "crate" next then visible externalCrate else foreignItems
  else if atWord "use" ts then visible (useItem)
  else if atWord "static" ts then visible (staticItem)
  else if atWord "const" ts then visible (constant)
  else if atWord "mod" ts || (atWord "unsafe" ts && atWord "mod" next) then
    visible (moduleItem)
  else if atWord "unsafe" ts && atWord "extern" next then foreignItems
  else if atTrait ts || (atWord "unsafe" ts && atTrait next) then visible (traitItem)
  else if atWord "type" ts then visible (typeItem false)
  else if atWord "struct" ts || atWord "enum" ts || (atWord "union" ts && atName next) then
    discard declaration
  else if atWord "impl" ts || atWord "unsafe" ts || (atWord "default" ts && !atOp "!" next) then
    visible (implementation)
  else if atWord "macro" ts then visible macroDefinition
  else
    require (!exposed)
    macroItem

end DocFilter.Source.Reader
