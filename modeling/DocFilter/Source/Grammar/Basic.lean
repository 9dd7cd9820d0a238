import DocFilter.Source.Reader

/-!
Paths, attributes and macro calls, which occur in every part of the grammar.
-/

namespace DocFilter.Source

/-- What is known of a path once it has been read. -/
structure Route where
  text : String
  leading : Bool
  segments : Nat
  /-- No segment has arguments. -/
  plain : Bool
  /-- The last segment has no arguments. -/
  lastBare : Bool

namespace Reader

def unmarked (r : Reader Unit) : Reader Form := do
  r
  return .other

def moduleWord : Reader Unit := do
  let ts ← ahead
  require (atName ts || atPathWord ts)
  discard anyWord

def modulePath : Reader Unit := do
  discard (operator? "::")
  moduleWord
  repeatWhile do
    if ← operator? "::" then
      moduleWord
      return true
    else return false

def afterWords? : List Tree → Option (List Tree)
  | tree :: .punct ':' true :: .punct ':' _ :: rest =>
    if atName [tree] || atPathWord [tree] then afterWords? rest else none
  | tree :: rest => if atName [tree] || atPathWord [tree] then some rest else none
  | [] => none

def afterModulePath? (ts : List Tree) : Option (List Tree) :=
  afterWords? (if atOp "::" ts then after (after ts) else ts)

def pathSegment (inExpression : Bool) : Reader (String × Bool) := do
  let ts ← ahead
  if ["super", "self", "crate", "try"].any (atWord · ts) then
    return ((← anyWord).written, true)
  else
    let word := if atWord "Self" ts then anyWord else name
    let text := (← word).written
    let ts ← ahead
    let angle := !inExpression && atOp "<" ts && !atOp "<=" ts
    let turbofish := atOp "::" ts && atOp "<" (after (after ts))
    if angle || turbofish then
      discard (call .genericArguments)
      return (text, false)
    else return (text, true)

/-- A further segment, if `::` does not stand before parentheses. -/
def nextSegment (inExpression : Bool) (route : Route) : Reader (Route × Bool) := do
  let ts ← ahead
  if atOp "::" ts && !atGroup .paren (after (after ts)) then
    operator "::"
    let (text, bare) ← pathSegment inExpression
    return (⟨text, route.leading, route.segments + 1, route.plain && bare, bare⟩, true)
  else return (route, false)

def pathRest (inExpression : Bool) (route : Route) : Reader Route :=
  iterate route (nextSegment inExpression)

def path (inExpression : Bool) : Reader Route := do
  let leading ← operator? "::"
  let (text, bare) ← pathSegment inExpression
  pathRest inExpression ⟨text, leading, 1, bare, bare⟩

/-- A path, or one that begins with a type in angle brackets. -/
def qualifiedPath (inExpression : Bool) : Reader (Bool × Route) := do
  if ← look (atOp "<") then
    operator "<"
    discard (call (.type true))
    if ← keyword? "as" then discard (path false)
    operator ">"
    operator "::"
    let (text, bare) ← pathSegment inExpression
    let route ← iterate (Route.mk text true 1 bare bare) fun route => do
      if ← operator? "::" then
        let (text, bare) ← pathSegment inExpression
        return (⟨text, true, route.segments + 1, route.plain && bare, bare⟩, true)
      else return (route, false)
    return (true, route)
  else return (false, ← path inExpression)

/-- The exclamation mark of a macro call after a path that can have one. -/
def atMacro (qualified : Bool) (route : Route) (ts : List Tree) : Bool :=
  !qualified && route.plain && atOp "!" ts && !atOp "!=" ts

def macroCall : Reader Delimiter := do
  operator "!"
  anyGroup

/-- What an attribute holds. Only a literal can stand alone after an equals sign. -/
def attributeContent : Reader Unit := do
  if ← look (atWord "unsafe") then keyword "unsafe" else modulePath
  attributeRest
where
  attributeRest : Reader Unit := do
    let ts ← ahead
    if Delimiter.all.any (atGroup · ts) then discard anyGroup
    else if ← operator? "=" then
      require (!atAttribute (← ahead))
      discard (call (.expression true))

def outerAttribute : Reader Unit := do
  operator "#"
  inGroup .bracket attributeContent

def outerAttribute? : Reader Bool := do
  if ← look (atOp "#") then
    outerAttribute
    return true
  else return false

def outerAttributes : Reader Bool := do
  let any ← look (atOp "#")
  repeatWhile outerAttribute?
  return any

def innerAttributes : Reader Unit :=
  repeatWhile do
    let ts ← ahead
    if atOp "#" ts && atOp "!" (after ts) then
      operator "#"
      operator "!"
      inGroup .bracket attributeContent
      return true
    else return false

def attributedBlock : Reader Unit :=
  inGroup .brace do
    innerAttributes
    discard (call .statements)

end Reader
end DocFilter.Source
