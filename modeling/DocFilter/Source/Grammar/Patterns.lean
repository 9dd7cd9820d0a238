import DocFilter.Source.Grammar.Basic

/-!
Patterns.
-/

namespace DocFilter.Source.Reader

/-- A field by its name or by its position, which is written in decimal; says if it is a name. -/
def member : Reader Bool := do
  match ← ahead with
  | .literal text :: _ =>
    let some index := indexValue? text.toList | fail
    replace 1 [toString index]
    return false
  | _ =>
    discard name
    return true

def patternEnd : Reader Bool := do
  let ts ← ahead
  if ts.isEmpty || ["|", "=", ",", ";"].any (atOp · ts) || (atOp ":" ts && !atOp "::" ts) ||
      atWord "if" ts then
    return false
  else
    if atLiteral ts then literal
    else if atWord "const" ts then
      keyword "const"
      attributedBlock
    else
      require (atName ts || atPathWord ts || atOp "::" ts || atOp "<" ts)
      discard (qualifiedPath true)
    return true

/-- The rest of a range in a pattern. Three points are an old way to write `..=`. -/
def patternRange : Reader Form := do
  let closed ←
    if ← operator? "..=" then pure true
    else if ← look (atOp "...") then
      replace 3 [".", ".", "="]
      pure true
    else
      operator ".."
      pure false
  let ended ← patternEnd
  require (ended || !closed)
  return if ended then .other else .openRange

def fieldPattern : Reader Unit := do
  discard outerAttributes
  if ← operator? ".." then require (← atEnd)
  else
    let boxed ← keyword? "box"
    let byReference ← keyword? "ref"
    let mutable ← keyword? "mut"
    if boxed || byReference || mutable then discard name
    else
      let named ← member
      if !named || (← look (atOp ":")) then
        operator ":"
        discard (call .pattern)

def pathPattern : Reader Form := do
  let (qualified, route) ← qualifiedPath true
  let ts ← ahead
  if atMacro qualified route ts then
    discard macroCall
    return .other
  else if atGroup .brace ts then
    discard (inGroup .brace (commaSeparated fieldPattern))
    return .other
  else if atGroup .paren ts then
    discard (inGroup .paren (commaSeparated (call .pattern)))
    return .other
  else if atOp ".." ts then patternRange
  else return .other

def bindingPattern : Reader Unit := do
  discard (keyword? "ref")
  discard (keyword? "mut")
  if !(← keyword? "self") then discard name
  if ← operator? "@" then discard (call .singlePattern)

def openPattern : Reader Form := do
  let closed ← operator? "..="
  if !closed then operator ".."
  let ended ← patternEnd
  require (ended || !closed)
  return if ended then .openRange else .other

/-- Ranges with an open end must be in parentheses here. -/
def slicePattern : Reader Unit := do
  discard (inGroup .bracket (commaSeparated do
    let form ← call .pattern
    require (form ≠ .openRange)))

def singlePattern : Reader Form := do
  let ts ← ahead
  let next := after ts
  let atPath := (atName ts && (["::", "!", ".."].any (atOp · next) || atGroup .brace next ||
      atGroup .paren next)) ||
    (atPathWord ts && (atOp "::" next || !atWord "self" ts)) || atOp "::" ts || atOp "<" ts
  if atPath then pathPattern
  else if atWord "_" ts then
    keyword "_"
    return .other
  else if atWord "box" ts then
    keyword "box"
    discard (call .singlePattern)
    return .other
  else if atOp "-" ts || atLiteral ts || atWord "const" ts then
    require (← patternEnd)
    if ← look (atOp "..") then patternRange else return .other
  else if atWord "ref" ts || atWord "mut" ts || atWord "self" ts || atName ts then
    bindingPattern
    return .other
  else if atOp "&" ts then
    operator "&"
    discard (keyword? "mut")
    discard (call .singlePattern)
    return .other
  else if atGroup .paren ts then
    discard (inGroup .paren (commaSeparated (call .pattern)))
    return .other
  else if atGroup .bracket ts then
    slicePattern
    return .other
  else
    require (atOp ".." ts && !atOp "..." ts)
    openPattern

def atAlternative (ts : List Tree) : Bool := atOp "|" ts && !atOp "||" ts && !atOp "|=" ts

def pattern : Reader Form := do
  let leading ← operator? "|"
  let form ← call .singlePattern
  if leading || atAlternative (← ahead) then
    repeatWhile do
      if atAlternative (← ahead) then
        operator "|"
        discard (call .singlePattern)
        return true
      else return false
    return .other
  else return form

end DocFilter.Source.Reader
