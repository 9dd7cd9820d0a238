import DocFilter.Source.Grammar.Expressions

/-!
Blocks and the statements in them.
-/

namespace DocFilter.Source.Reader

def block : Reader Unit := inGroup .brace (discard (call .statements))

/-- A value must follow the equals sign, and a block an `else`. There is no `else` after a value that
ends with a brace. -/
def binding : Reader Unit := do
  keyword "let"
  discard (call .singlePattern)
  if ← operator? ":" then discard (call (.type true))
  if ← operator? "=" then
    let (_, texts) ← captured (call (.expression true))
    write texts
    if texts.getLast? ≠ some Delimiter.brace.closing.toString then
      if ← keyword? "else" then discard (call .block)
  operator ";"

/-- A macro that defines something has a name after its exclamation mark. -/
def atNamedMacro (rest : List Tree) : Bool :=
  atOp "!" rest && (atName (after rest) || atWord "try" (after rest))

/-- A macro call with braces is a statement of its own if nothing continues it. -/
def atMacroStatement (rest : List Tree) : Bool :=
  let behind := after (after rest)
  atOp "!" rest && atGroup .brace (after rest) && !(atPoint behind || atOp "?" behind)

def atFunction (ts : List Tree) : Bool := ["unsafe", "extern", "fn"].any (atWord · ts)

def atItem (ts : List Tree) : Bool :=
  let next := after ts
  let third := after next
  ["pub", "extern", "use", "fn", "mod", "type", "struct", "enum", "trait", "impl", "macro"].any
      (atWord · ts) ||
    (atWord "crate" ts && !atOp "::" next) ||
    (atWord "static" ts && (atWord "mut" next || atName next)) ||
    (atWord "const" ts && !(atGroup .brace next || atWord "static" next || atWord "move" next ||
      atOp "|" next || (atWord "async" next && !atFunction third))) ||
    (atWord "unsafe" ts && !atGroup .brace next) ||
    (atWord "async" ts && atFunction next) ||
    (atWord "union" ts && atName next) ||
    (atWord "auto" ts && atWord "trait" next) ||
    (atWord "default" ts && (atWord "unsafe" next || atWord "impl" next))

/-- One statement; says whether a semicolon must follow if it is not the last one. -/
def statement : Reader Bool := do
  discard outerAttributes
  let rest := (afterModulePath? (← ahead)).getD []
  if atMacroStatement rest then
    modulePath
    discard macroCall
    discard (operator? ";")
    return false
  else if ← look (atWord "let") then
    binding
    return false
  else if atNamedMacro rest || atItem (← ahead) then
    discard (call .item)
    return false
  else
    let form ← call .bounded
    if ← operator? ";" then return false else return form ≠ .block && form ≠ .braceMacro

def statements : Reader Unit :=
  repeatWhile do
    repeatWhile (operator? ";")
    if ← atEnd then return false
    let pending ← statement
    if ← atEnd then return false
    require (!pending)
    return true

end DocFilter.Source.Reader
