import DocFilter.Source.Grammar.Patterns
import DocFilter.Source.Grammar.Types

/-!
Expressions.
-/

namespace DocFilter.Source.Reader

/-- An operator comes before those that it begins with. -/
def binaryOperators : List (String × Precedence) :=
  [("+=", .assign), ("-=", .assign), ("*=", .assign), ("/=", .assign), ("%=", .assign),
    ("^=", .assign), ("&=", .assign), ("|=", .assign), ("<<=", .assign), (">>=", .assign),
    ("&&", .and), ("||", .or), ("<<", .shift), (">>", .shift), ("==", .compare), ("<=", .compare),
    ("!=", .compare), (">=", .compare), ("+", .sum), ("-", .sum), ("*", .product), ("/", .product),
    ("%", .product), ("^", .bitXor), ("&", .bitAnd), ("|", .bitOr), ("<", .compare),
    (">", .compare)]

def binaryOperator? (ts : List Tree) : Option (String × Precedence) :=
  binaryOperators.find? fun (op, _) => atOp op ts

def atAssignment (ts : List Tree) : Bool := atOp "=" ts && !atOp "=>" ts

def nextPrecedence (ts : List Tree) : Precedence :=
  match binaryOperator? ts with
  | some (_, p) => p
  | none =>
    if atAssignment ts then .assign
    else if atOp ".." ts then .range
    else if atWord "as" ts then .cast
    else .loosest

/-- A point that is not the first of several. -/
def atPoint (ts : List Tree) : Bool := atOp "." ts && !atOp ".." ts

def atRangeEnd (structs : Bool) (ts : List Tree) : Bool :=
  ts.isEmpty || atPoint ts || (!structs && atGroup .brace ts) || atWord "as" ts ||
    [",", ";", "?", "=>", "=", "+", "/", "%", "^", ">", "<=", "!=", "-=", "*=", "&=", "|=",
      "<<="].any (atOp · ts)

def rangeRest (structs : Bool) : Reader Unit := do
  if ← operator? "..=" then discard (call (.operand structs .range))
  else
    require (!(← look (atOp "...")))
    operator ".."
    if !atRangeEnd structs (← ahead) then discard (call (.operand structs .range))

/-- Nothing that belongs to a single value can stand directly after a cast. -/
def atCastTrailer (ts : List Tree) : Bool :=
  atPoint ts || atOp "?" ts || atGroup .bracket ts || atGroup .paren ts

/-- One operator with its right operand, if one binds tightly enough. A range can be no left operand,
and a comparison none of another comparison. -/
def nextOperator (structs : Bool) (least : Precedence) (left : Form) : Reader (Form × Bool) := do
  let ts ← ahead
  if left = .range then return (left, false)
  match binaryOperator? ts with
  | some (op, p) =>
    if p < least then return (left, false)
    require (!(p = .compare && left = .comparison))
    operator op
    discard (call (.operand structs p))
    return (if p = .compare then .comparison else .other, true)
  | none =>
    if atAssignment ts && !decide (.assign < least) then
      operator "="
      discard (call (.operand structs .assign))
      return (.other, true)
    else if atOp ".." ts && !decide (.range < least) then
      rangeRest structs
      return (.range, true)
    else if atWord "as" ts then
      keyword "as"
      discard (call (.type false))
      require (!atCastTrailer (← ahead))
      return (.other, true)
    else return (left, false)

def operators (left : Form) (structs : Bool) (least : Precedence) : Reader Form :=
  iterate left (nextOperator structs least)

/-- Takes the operators that bind more tightly, and those of assignment from the right. -/
def operand (structs : Bool) (precedence : Precedence) : Reader Form := do
  let form ← call (.unary structs)
  iterate form fun form => do
    let next := nextPrecedence (← ahead)
    if precedence < next ∨ (next = precedence ∧ precedence = .assign) then
      return (← call (.operators form structs next), true)
    else return (form, false)

def callArguments : Reader (List (List String)) :=
  inGroup .paren (commaSeparated do
    let (_, texts) ← captured (call (.expression true))
    write texts
    return texts)

def namedMember : Reader Unit := do
  if !(← keyword? "await") then
    let named ← member
    if named then
      let ts ← ahead
      if atOp "::" ts then discard (call .genericArguments)
      if atOp "::" ts || atGroup .paren ts then discard callArguments

/-- A number after the point may hold several indices. -/
def memberAccess : Reader Unit := do
  operator "."
  match ← ahead with
  | .literal text :: _ =>
    let some (indices, pending) := memberIndices? text | fail
    replace 1 (List.intercalate ["."] (indices.map fun i => [toString i]))
    if pending then
      write ["."]
      namedMember
  | _ => namedMember

def nextTrailer (form : Form) : Reader (Form × Bool) := do
  let ts ← ahead
  if atGroup .paren ts then return (.call form.callee? (← callArguments), true)
  else if atPoint ts && form ≠ .range then
    memberAccess
    return (.other, true)
  else if atGroup .bracket ts then
    discard (inGroup .bracket (call (.expression true)))
    return (.other, true)
  else if atOp "?" ts && form ≠ .range then
    operator "?"
    return (.other, true)
  else return (form, false)

def trailers (form : Form) : Reader Form := iterate form nextTrailer

def fieldValue : Reader Unit := do
  if ← operator? ".." then
    if !(← atEnd) then discard (call (.expression true))
    require (← atEnd)
  else
    discard outerAttributes
    let named ← member
    if !named || (← look (atOp ":")) then
      operator ":"
      discard (call (.expression true))

def pathExpression (structs : Bool) : Reader Form := do
  let (qualified, route) ← qualifiedPath true
  let ts ← ahead
  if atMacro qualified route ts then
    return if (← macroCall) = .brace then .braceMacro else .other
  else if structs && atGroup .brace ts then
    discard (inGroup .brace (commaSeparated fieldValue))
    return .other
  else if !qualified && !route.leading && route.plain && route.segments == 1 then
    return .name route.text
  else return .other

def atBinder (ts : List Tree) : Bool :=
  atOp "<" ts && (atLifetime (after ts) || atOp ">" (after ts))

def atClosure (ts : List Tree) : Bool :=
  let next := after ts
  atOp "|" ts || atWord "move" ts || atWord "static" ts || (atWord "for" ts && atBinder next) ||
    (atWord "const" ts && !atGroup .brace next) ||
    (atWord "async" ts && (atOp "|" next || atWord "move" next))

def closureArgument : Reader Unit := do
  discard outerAttributes
  discard (call .singlePattern)
  if ← operator? ":" then discard (call (.type true))

/-- The body is a block if the closure says what it returns. -/
def closure (structs : Bool) : Reader Unit := do
  discard boundLifetimes?
  ["const", "static", "async", "move"].forM fun word => discard (keyword? word)
  operator "|"
  repeatWhile do
    if ← look (atOp "|") then return false
    closureArgument
    if ← look (atOp "|") then return false
    operator ","
    return true
  operator "|"
  if ← operator? "->" then
    discard (call (.type true))
    discard (call .block)
  else discard (call (.expression structs))

def beginsExpression (ts : List Tree) : Bool :=
  atAnyWord ts || Delimiter.all.any (atGroup · ts) || atLiteral ts || atLifetime ts ||
    ["..", "::", "#"].any (atOp · ts) ||
    [("!", ["!="]), ("-", ["-=", "->"]), ("*", ["*="]), ("|", ["|="]), ("&", ["&="]),
      ("<", ["<=", "<<="])].any fun (op, longer) => atOp op ts && !longer.any (atOp · ts)

/-- A label cannot be followed by the colon that would make it the label of a loop. -/
def breakRest (structs : Bool) : Reader Unit := do
  let ts ← ahead
  if atLifetime ts then
    require (!atOp ":" (after ts))
    lifetime
  let ts ← ahead
  if beginsExpression ts && (structs || !atGroup .brace ts) then
    discard (call (.expression true))

def optionalValue : Reader Unit := do
  if beginsExpression (← ahead) then discard (call (.expression true))

def array : Reader Unit :=
  inGroup .bracket do
    if !(← atEnd) then
      discard (call (.expression true))
      if ← operator? ";" then discard (call (.expression true))
      else if !(← atEnd) then
        operator ","
        discard (commaSeparated (call (.expression true)))

def letCondition (structs : Bool) : Reader Unit := do
  keyword "let"
  discard (call .pattern)
  operator "="
  let form ← call (.unary structs)
  discard (call (.operators form structs .compare))

def conditional : Reader Unit :=
  repeatWhile do
    keyword "if"
    discard (call (.expression false))
    discard (call .block)
    if ← keyword? "else" then
      if ← look (atWord "if") then return true
      discard (call .block)
    return false

/-- A comma must follow an arm that is not the last one and does not end with its block. -/
def arm : Reader Unit := do
  discard outerAttributes
  discard (call .pattern)
  if ← keyword? "if" then discard (call (.expression true))
  operator "=>"
  let form ← call .bounded
  if form = .block ∨ (← atEnd) then discard (operator? ",") else operator ","

def choice : Reader Unit := do
  keyword "match"
  discard (call (.expression false))
  inGroup .brace do
    innerAttributes
    repeatWhile do
      if ← atEnd then return false
      arm
      return true

def atLoop (ts : List Tree) : Bool :=
  atWord "while" ts || atWord "loop" ts || (atWord "for" ts && !atBinder (after ts))

def loopExpression : Reader Unit := do
  if ← keyword? "while" then discard (call (.expression false))
  else if ← keyword? "for" then
    discard (call .pattern)
    keyword "in"
    discard (call (.expression false))
  else keyword "loop"
  attributedBlock

def atBlockExpression (ts : List Tree) : Bool :=
  let next := after ts
  atLoop ts || atWord "if" ts || atWord "match" ts || atWord "unsafe" ts || atGroup .brace ts ||
    atLifetime ts || ((atWord "try" ts || atWord "const" ts) && atGroup .brace next)

/-- Only loops and blocks can have a label. -/
def blockExpression : Reader Unit := do
  let labelled ← look atLifetime
  if labelled then
    lifetime
    operator ":"
  let ts ← ahead
  if atWord "while" ts || atWord "loop" ts || atWord "for" ts then loopExpression
  else if labelled || atGroup .brace ts then attributedBlock
  else if atWord "if" ts then conditional
  else if atWord "match" ts then choice
  else if ← keyword? "try" then discard (call .block)
  else
    if !(← keyword? "unsafe") then keyword "const"
    attributedBlock

def atom (structs : Bool) : Reader Form := do
  let ts ← ahead
  let next := after ts
  let atPath := atName ts || atPathWord ts || atOp "::" ts || atOp "<" ts ||
    (atWord "try" ts && (atOp "!" next || atOp "::" next))
  let atAsync := atWord "async" ts &&
    (atGroup .brace next || (atWord "move" next && atGroup .brace (after next)))
  if atLiteral ts then
    literal
    match ts with
    | .literal text :: _ => return .literal text
    | _ => return .other
  else if atAsync then unmarked do
    keyword "async"
    discard (keyword? "move")
    discard (call .block)
  else if atClosure ts then unmarked (closure structs)
  else if atWord "builtin" ts && atOp "#" next then unmarked do
    keyword "builtin"
    operator "#"
    discard name
    require (← look (atGroup .paren))
    discard token
  else if atBlockExpression ts then
    blockExpression
    return .block
  else if atPath then pathExpression structs
  else if atGroup .paren ts then
    unmarked (discard (inGroup .paren (commaSeparated (call (.expression true)))))
  else if atGroup .bracket ts then unmarked array
  else if atWord "let" ts then unmarked (letCondition structs)
  else if atOp ".." ts then
    rangeRest structs
    return .range
  else if ← keyword? "break" then unmarked (breakRest structs)
  else if ← keyword? "continue" then unmarked do
    if ← look atLifetime then lifetime
  else if ← keyword? "return" then unmarked optionalValue
  else if ← keyword? "yield" then unmarked optionalValue
  else if ← keyword? "become" then unmarked (discard (call (.expression true)))
  else unmarked (keyword "_")

def unary (structs : Bool) : Reader Form := do
  let attributed ← outerAttributes
  let ts ← ahead
  if atOp "&" ts then
    operator "&"
    let ts ← ahead
    if atWord "raw" ts && (atWord "mut" (after ts) || atWord "const" (after ts)) then
      discard token
      discard token
    else discard (keyword? "mut")
    discard (call (.unary structs))
    return .other
  else if ["*", "!", "-"].any (atOp · ts) then
    discard token
    discard (call (.unary structs))
    return .other
  else
    let form ← trailers (← atom structs)
    require (!(attributed && form = .range))
    return form

def expression (structs : Bool) : Reader Form := do
  let form ← call (.unary structs)
  call (.operators form structs .loosest)

/-- Where an expression may end with its block, only a point or a question mark continues it. -/
def bounded : Reader Form := do
  discard outerAttributes
  if atBlockExpression (← ahead) then
    blockExpression
    let ts ← ahead
    if atPoint ts || atOp "?" ts then
      let form ← trailers .other
      call (.operators form true .loosest)
    else return .block
  else call (.expression true)

end DocFilter.Source.Reader
