import DocFilter.Source.Grammar.Basic

/-!
Types, bounds, and what stands between angle brackets.
-/

namespace DocFilter.Source.Reader

/-- A list between angle brackets whose lifetimes are written before everything else. Each part is
its texts, whether it is a lifetime, and whether a comma follows it. -/
def lifetimesFirst (parts : List (List String × Bool × Bool)) : List String :=
  let comma (follows : Bool) : List String := if follows then [","] else []
  let lifetimes := parts.filter (·.2.1)
  let others := parts.filter (!·.2.1)
  let separated := match lifetimes.getLast? with
    | some (_, _, follows) => follows
    | none => true
  let front := lifetimes.flatMap fun (texts, _, follows) => texts ++ comma follows
  let rec back : Bool → List (List String × Bool × Bool) → List String
    | _, [] => []
    | separated, (texts, _, follows) :: rest =>
      comma (!separated) ++ texts ++ comma follows ++ back follows rest
  front ++ back separated others

/-- Parts between angle brackets, each with a note whether it is a lifetime. -/
def angled (part : Reader Bool) : Reader Unit := do
  operator "<"
  let parts ← iterate [] fun parts => do
    if ← look (atOp ">") then return (parts, false)
    let (lifetime, texts) ← captured part
    if ← look (atOp ">") then return (parts ++ [(texts, lifetime, false)], false)
    require (← look (atOp ","))
    skip 1
    return (parts ++ [(texts, lifetime, true)], true)
  write (lifetimesFirst parts)
  operator ">"

def boundLifetimes? : Reader Bool := do
  if ← look (atWord "for") then
    keyword "for"
    angled do
      discard outerAttributes
      lifetime
      return true
    return true
  else return false

def constArgument : Reader Unit := do
  let ts ← ahead
  if atLiteral ts then literal
  else if atName ts then discard name
  else attributedBlock

def boundsUpTo (ends : List Tree → Bool) : Reader Unit :=
  repeatWhile do
    if ends (← ahead) then return false
    discard (call (.bound false true))
    operator? "+"

def genericArgument : Reader Bool := do
  let ts ← ahead
  if atLifetime ts && !atOp "+" (after ts) then
    lifetime
    return true
  else if atLiteral ts || atGroup .brace ts then
    constArgument
    return false
  else
    let form ← call (.type true)
    if form = .segment then
      if ← operator? "=" then
        let ts ← ahead
        if atLiteral ts || atGroup .brace ts then constArgument
        else discard (call (.type true))
      else if ← operator? ":" then
        boundsUpTo fun ts => atOp "," ts || atOp ">" ts
    return false

def genericArguments : Reader Form := do
  discard (operator? "::")
  angled genericArgument
  return .other

def returnType (plus : Bool) : Reader (Option Form) := do
  if ← operator? "->" then return some (← call (.type plus)) else return none

def functionArguments : Reader (Option Form) := do
  discard (inGroup .paren (commaSeparated (call (.type true))))
  returnType false

def atFunctionArguments (ts : List Tree) : Bool :=
  atGroup .paren ts || (atOp "::" ts && atGroup .paren (after (after ts)))

/-- A `::` before the arguments of a function trait is not written. -/
def skipTurbofish : Reader Unit := do
  if ← look (atOp "::") then skip 2

def typePath : Reader (Bool × Route × Bool) := do
  let (qualified, route) ← qualifiedPath false
  let (route, function) ← iterate (route, false) fun (route, function) => do
    if route.lastBare && atFunctionArguments (← ahead) then
      skipTurbofish
      let result ← functionArguments
      let route := { route with plain := false, lastBare := false }
      if result = none ∨ result = some .parenthesized then
        return ((← pathRest false route, true), true)
      else return ((route, true), true)
    else return ((route, function), false)
  return (qualified, route, function)

def atBound (ts : List Tree) : Bool :=
  atAnyWord ts || atOp "::" ts || atOp "?" ts || atLifetime ts || atGroup .paren ts

/-- Further bounds, each after a plus sign; `openEnd` says whether the last sign may have none. -/
def plusBounds (openEnd : Bool) : Reader Unit :=
  repeatWhile do
    if ← operator? "+" then
      if openEnd && !atBound (← ahead) then return false
      discard (call (.bound false false))
      return true
    else return false

def traitBounds (plus capture : Bool) : Reader Unit := do
  let found ← iterate false fun found => do
    let form ← call (.bound capture true)
    let found := found || form = .trait
    if plus && (← look (atOp "+")) then
      operator "+"
      let ts ← ahead
      return (found, atBound ts || atOp "~" ts)
    else return (found, false)
  require found

def traitBound (const : Bool) : Reader Form := do
  let forAll ← boundLifetimes?
  if const then
    if ← look (atOp "~") then
      operator "~"
      keyword "const"
    else discard (keyword? "const")
  if ← operator? "?" then
    if !forAll then discard boundLifetimes?
  let route ← path false
  if route.lastBare && atFunctionArguments (← ahead) then
    skipTurbofish
    discard functionArguments
  return .trait

def bound (capture const : Bool) : Reader Form := do
  let ts ← ahead
  if atLifetime ts then
    lifetime
    return .other
  else if atWord "use" ts then
    require capture
    keyword "use"
    angled do
      if ← look atLifetime then
        lifetime
        return true
      else
        require (← look fun ts => atName ts || atWord "Self" ts)
        discard anyWord
        return false
    return .other
  else if atGroup .paren ts then inGroup .paren (traitBound const)
  else traitBound const

inductive ParenType where
  /-- Nothing, several types, or an object type. -/
  | closed
  | maybe
  | single (form : Form)
  deriving DecidableEq

def parenType : Reader ParenType :=
  inGroup .paren do
    let ts ← ahead
    if ts.isEmpty then return .closed
    else if atLifetime ts then
      traitBounds true false
      return .closed
    else if atOp "?" ts then
      discard (traitBound false)
      return .maybe
    else
      let form ← call (.type true)
      if ← operator? "," then
        discard (commaSeparated (call (.type true)))
        return .closed
      else return .single form

/-- A function pointer. Its parameters may be named, and the last one may stand for any number. -/
def functionPointer : Reader Unit := do
  discard (keyword? "unsafe")
  if ← keyword? "extern" then
    if ← look atStringLiteral then discard token
  keyword "fn"
  let openEnds ← inGroup .paren (commaSeparated do
    discard outerAttributes
    let ts ← ahead
    if (atName ts || atWord "_" ts || atWord "self" ts) && atOp ":" (after ts) &&
        !atOp "::" (after ts) then
      discard anyWord
      operator ":"
    let openEnd ← operator? "..."
    if !openEnd then discard (call (.type true))
    return openEnd)
  require (!openEnds.dropLast.contains true)
  discard (returnType false)

def pathType (plus forAll : Bool) : Reader Form := do
  let (qualified, route, function) ← typePath
  if qualified then return .other
  else if atMacro qualified route (← ahead) then
    discard macroCall
    return .other
  else if plus && (← look (atOp "+")) then
    plusBounds true
    return .other
  else if forAll then return .trait
  else if !route.leading && route.segments == 1 && !function then return .segment
  else return .route

def type (plus : Bool) : Reader Form := do
  let forAll ← boundLifetimes?
  let ts ← ahead
  let atPointer := ["fn", "unsafe", "extern"].any (atWord · ts)
  if forAll then require (atName ts || atPointer || atPathWord ts)
  if atGroup .paren ts then
    match ← parenType with
    | .closed => return .other
    | .maybe =>
      plusBounds false
      return .other
    | .single form =>
      if plus && (← look (atOp "+")) && (form = .segment ∨ form = .route ∨ form = .trait) then
        plusBounds false
        return .other
      else return .parenthesized
  else if atPointer then
    functionPointer
    return .other
  else if atName ts || atPathWord ts || atOp "::" ts || atOp "<" ts then
    pathType plus forAll
  else if atWord "dyn" ts then
    keyword "dyn"
    discard (operator? "*")
    traitBounds plus false
    return .other
  else if atGroup .bracket ts then
    inGroup .bracket do
      discard (call (.type true))
      if ← operator? ";" then discard (call (.expression true))
    return .other
  else if atOp "*" ts then
    operator "*"
    if !(← keyword? "const") then keyword "mut"
    discard (call (.type false))
    return .other
  else if atOp "&" ts then
    operator "&"
    if ← look atLifetime then lifetime
    discard (keyword? "mut")
    discard (call (.type false))
    return .other
  else if atOp "!" ts then
    operator "!"
    return .other
  else if atWord "impl" ts then
    keyword "impl"
    traitBounds plus true
    return .other
  else if atWord "_" ts then
    keyword "_"
    return .other
  else
    require (atLifetime ts)
    traitBounds true false
    return .other

end DocFilter.Source.Reader
