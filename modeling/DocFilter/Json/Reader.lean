import DocFilter.Json.Number
import DocFilter.Text.Bytes

/-!
Reading JSON text. The reader keeps what the text says: number literals by their parts, members
with repeated names, and strings as they are spelled, so that whoever uses the tree decides which
numbers and which escapes are acceptable.
-/

namespace DocFilter

/-- A JSON text as a tree. A string whose escapes spell no text is `none`. -/
inductive Json where
  | null
  | bool (b : Bool)
  | number (literal : Json.NumberLiteral)
  | string (text : Option String)
  | array (items : List Json)
  | object (members : List (Option String × Json))
  deriving Inhabited

namespace Json

/-- A character of a string, or the 16-bit unit that an escape stands for. -/
inductive StringUnit where
  | char (c : Char)
  | unit (n : Nat)

def isHigh (n : Nat) : Bool := 0xd800 ≤ n && n < 0xdc00

def isLow (n : Nat) : Bool := 0xdc00 ≤ n && n < 0xe000

/-- Joins a high unit with the low unit that follows it; a unit without its partner is no text. -/
def joinUnits : List StringUnit → Option (List Char)
  | [] => some []
  | .char c :: rest => (joinUnits rest).map (c :: ·)
  | .unit n :: rest =>
    if isLow n then none
    else if isHigh n then
      match rest with
      | .unit m :: rest =>
        if isLow m then
          (joinUnits rest).map (Char.ofNat (0x10000 + (n - 0xd800) * 0x400 + (m - 0xdc00)) :: ·)
        else none
      | _ => none
    else (joinUnits rest).map (Char.ofNat n :: ·)

def isSpace (c : Char) : Bool := c == ' ' || c == '\n' || c == '\t' || c == '\r'

def skipSpace (s : List Char) : List Char := s.dropWhile isSpace

def hexUnit? (a b c d : Char) : Option Nat := do
  let a ← Text.hexValue? a
  let b ← Text.hexValue? b
  let c ← Text.hexValue? c
  let d ← Text.hexValue? d
  return ((a * 16 + b) * 16 + c) * 16 + d

def simpleEscape? (c : Char) : Option Char :=
  match c with
  | '"' => some '"'
  | '\\' => some '\\'
  | '/' => some '/'
  | 'b' => some '\x08'
  | 'f' => some '\x0c'
  | 'n' => some '\n'
  | 'r' => some '\r'
  | 't' => some '\t'
  | _ => none

def readString : List Char → Option (List StringUnit × List Char)
  | [] => none
  | '"' :: rest => some ([], rest)
  | '\\' :: 'u' :: a :: b :: c :: d :: rest => do
    let n ← hexUnit? a b c d
    let (units, rest) ← readString rest
    return (.unit n :: units, rest)
  | '\\' :: e :: rest => do
    let c ← simpleEscape? e
    let (units, rest) ← readString rest
    return (.char c :: units, rest)
  | c :: rest =>
    if c.toNat < 0x20 || c = '\\' then none else do
      let (units, rest) ← readString rest
      return (.char c :: units, rest)

def textOf (units : List StringUnit) : Option String := (joinUnits units).map String.ofList

def digitsOf (s : List Char) : List Nat :=
  (s.takeWhile Char.isDigit).map fun c => c.toNat - '0'.toNat

def afterDigits (s : List Char) : List Char := s.dropWhile Char.isDigit

def readDigits (s : List Char) : Option (List Nat × List Char) :=
  if (digitsOf s).isEmpty then none else some (digitsOf s, afterDigits s)

/-- A whole part has no leading zero, so that a zero is a whole part by itself. -/
def readWhole : List Char → Option (List Nat × List Char)
  | '0' :: rest => some ([0], rest)
  | s => readDigits s

def readFraction : List Char → Option (Option (List Nat) × List Char)
  | '.' :: rest => do
    let (digits, rest) ← readDigits rest
    return (some digits, rest)
  | s => some (none, s)

def readExponentDigits (down : Bool) (s : List Char) :
    Option (Option (Bool × List Nat) × List Char) := do
  let (digits, rest) ← readDigits s
  return (some (down, digits), rest)

def readExponent : List Char → Option (Option (Bool × List Nat) × List Char)
  | e :: rest =>
    if e = 'e' ∨ e = 'E' then
      match rest with
      | '+' :: rest => readExponentDigits false rest
      | '-' :: rest => readExponentDigits true rest
      | rest => readExponentDigits false rest
    else some (none, e :: rest)
  | [] => some (none, [])

def readUnsigned (negative : Bool) (s : List Char) : Option (NumberLiteral × List Char) := do
  let (whole, s) ← readWhole s
  let (fraction, s) ← readFraction s
  let (exponent, s) ← readExponent s
  return (⟨negative, whole, fraction, exponent⟩, s)

def readNumber : List Char → Option (NumberLiteral × List Char)
  | '-' :: rest => readUnsigned true rest
  | s => readUnsigned false s

mutual

/-- A value and the text after it. Every call takes a character, so the length of the text is
enough fuel. -/
def readValue : Nat → List Char → Option (Json × List Char)
  | 0, _ => none
  | fuel + 1, s =>
    match skipSpace s with
    | 'n' :: 'u' :: 'l' :: 'l' :: rest => some (.null, rest)
    | 't' :: 'r' :: 'u' :: 'e' :: rest => some (.bool true, rest)
    | 'f' :: 'a' :: 'l' :: 's' :: 'e' :: rest => some (.bool false, rest)
    | '"' :: rest => do
      let (units, rest) ← readString rest
      return (.string (textOf units), rest)
    | '[' :: rest =>
      match skipSpace rest with
      | ']' :: rest => some (.array [], rest)
      | rest => do
        let (items, rest) ← readItems fuel rest
        return (.array items, rest)
    | '\x7b' :: rest =>
      match skipSpace rest with
      | '\x7d' :: rest => some (.object [], rest)
      | rest => do
        let (members, rest) ← readMembers fuel rest
        return (.object members, rest)
    | rest => do
      let (literal, rest) ← readNumber rest
      return (.number literal, rest)

/-- The items of an array that is not empty, and the text after its closing bracket. -/
def readItems : Nat → List Char → Option (List Json × List Char)
  | 0, _ => none
  | fuel + 1, s => do
    let (item, s) ← readValue fuel s
    match skipSpace s with
    | ']' :: rest => return ([item], rest)
    | ',' :: rest =>
      let (items, rest) ← readItems fuel rest
      return (item :: items, rest)
    | _ => none

/-- The members of an object that is not empty, and the text after its closing brace. -/
def readMembers : Nat → List Char → Option (List (Option String × Json) × List Char)
  | 0, _ => none
  | fuel + 1, s => do
    match skipSpace s with
    | '"' :: s =>
      let (units, s) ← readString s
      match skipSpace s with
      | ':' :: s =>
        let (value, s) ← readValue fuel s
        match skipSpace s with
        | '\x7d' :: rest => return ([(textOf units, value)], rest)
        | ',' :: rest =>
          let (members, rest) ← readMembers fuel rest
          return ((textOf units, value) :: members, rest)
        | _ => none
      | _ => none
    | _ => none

end

/-- The whole text must be one value with nothing but white space around it. -/
def read? (text : String) : Option Json := do
  let s := text.toList
  let (value, rest) ← readValue (2 * s.length + 2) s
  if (skipSpace rest).isEmpty then some value else none

end Json
end DocFilter
