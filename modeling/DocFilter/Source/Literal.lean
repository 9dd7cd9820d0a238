import DocFilter.Source.Lexeme

/-!
What literals stand for. The text of a literal has been through the lexer, so that its escapes are
known to be in order.
-/

namespace DocFilter.Source

def simpleEscape (c : Char) : Char :=
  if c = 'n' then '\n'
  else if c = 'r' then '\r'
  else if c = 't' then '\t'
  else if c = '0' then '\x00'
  else c

/-- The characters of a string up to its closing quote. White space after a backslash at the end of
a line is left out, and a line always ends with a line feed alone. -/
def unquoted : Nat → List Char → List Char
  | 0, _ => []
  | fuel + 1, s =>
    match s with
    | [] => []
    | '"' :: _ => []
    | '\r' :: '\n' :: rest => '\n' :: unquoted fuel rest
    | '\\' :: 'x' :: a :: b :: rest =>
      Char.ofNat ((Text.hexValue? a).getD 0 * 16 + (Text.hexValue? b).getD 0) :: unquoted fuel rest
    | '\\' :: 'u' :: '\x7b' :: rest =>
      match codePoint? 0 0 rest with
      | some (c, rest) => c :: unquoted fuel rest
      | none => []
    | '\\' :: c :: rest =>
      if c = '\n' ∨ c = '\r' then unquoted fuel (rest.dropWhile isWhite)
      else simpleEscape c :: unquoted fuel rest
    | c :: rest => c :: unquoted fuel rest

def unquotedRaw (hashes : Nat) : List Char → List Char
  | [] => []
  | c :: rest =>
    if c = '"' ∧ rest.take hashes = List.replicate hashes '#' then []
    else c :: unquotedRaw hashes rest

/-- The value of a string literal, whatever its suffix. Byte strings have none. -/
def stringValue? (literal : String) : Option String :=
  match literal.toList with
  | '"' :: rest => some (String.ofList (unquoted (rest.length + 1) rest))
  | 'r' :: rest =>
    (rawOpening? rest).map fun (hashes, body) => String.ofList (unquotedRaw hashes body)
  | _ => none

def digitsValue? (base : Nat) (value : Nat) : List Char → Option Nat
  | [] => some value
  | '_' :: rest => digitsValue? base value rest
  | c :: rest =>
    match Text.hexValue? c with
    | some digit => if digit < base then digitsValue? base (value * base + digit) rest else none
    | none => none

/-- The value of a whole number without a suffix that fits 32 bits. -/
def indexValue? (text : List Char) : Option Nat :=
  let value :=
    match text with
    | '0' :: 'x' :: rest => digitsValue? 16 0 rest
    | '0' :: 'o' :: rest => digitsValue? 8 0 rest
    | '0' :: 'b' :: rest => digitsValue? 2 0 rest
    | c :: rest => if c.isDigit then digitsValue? 10 0 (c :: rest) else none
    | [] => none
  value.filter (· < 0x100000000)

def betweenPoints : List Char → List (List Char)
  | [] => [[]]
  | c :: rest =>
    if c = '.' then [] :: betweenPoints rest
    else
      match betweenPoints rest with
      | [] => [[c]]
      | part :: parts => (c :: part) :: parts

/-- The indices that a number after a point stands for, since `0.1` is read as one number there. The
second part says whether a last point is left without an index. -/
def memberIndices? (literal : String) : Option (List Nat × Bool) := do
  let text := literal.toList
  let pending := text.getLast? == some '.'
  let parts := betweenPoints (if pending then text.dropLast else text)
  return (← parts.mapM indexValue?, pending)

/-- Says whether a literal is a number, which is what a minus sign can be joined to. -/
def isNumber (literal : String) : Bool := literal.toList.head?.any Char.isDigit

end DocFilter.Source
