import DocFilter.Text.Identifier
import DocFilter.Text.Bytes

/-!
The shapes of single lexemes: blanks and comments, words, numbers, characters and strings. Each
function takes the text and gives what is left of it after the lexeme, or nothing if the text does
not begin with one.
-/

namespace DocFilter.Source

def isWhite (c : Char) : Bool :=
  let n := c.toNat
  (9 ≤ n && n ≤ 13) || n == 0x20 || n == 0x85 || n == 0xa0 || n == 0x1680 ||
    (0x2000 ≤ n && n ≤ 0x200a) || n == 0x2028 || n == 0x2029 || n == 0x202f || n == 0x205f ||
    n == 0x3000

/-- White space between tokens, to which the two direction marks belong. -/
def isBlank (c : Char) : Bool := isWhite c || c == '\u200e' || c == '\u200f'

/-- The rest of the line is dropped, but not its end. -/
def afterLine : List Char → List Char
  | [] => []
  | '\n' :: rest => '\n' :: rest
  | '\r' :: '\n' :: rest => '\n' :: rest
  | _ :: rest => afterLine rest

/-- Block comments nest; `depth` counts those that are open. -/
def afterBlockComment? : Nat → List Char → Option (List Char)
  | depth, '/' :: '*' :: rest => afterBlockComment? (depth + 1) rest
  | depth, '*' :: '/' :: rest =>
    if depth ≤ 1 then some rest else afterBlockComment? (depth - 1) rest
  | depth, _ :: rest => afterBlockComment? depth rest
  | _, [] => none

/-- The number of slashes and stars after the opening of a comment tells a documentation comment
from a plain one. -/
def plainComment? : List Char → Option (List Char)
  | '/' :: '/' :: '/' :: '/' :: rest => some (afterLine rest)
  | '/' :: '/' :: '/' :: _ => none
  | '/' :: '/' :: '!' :: _ => none
  | '/' :: '/' :: rest => some (afterLine rest)
  | '/' :: '*' :: '*' :: '/' :: rest => some rest
  | '/' :: '*' :: '*' :: '*' :: rest => afterBlockComment? 1 ('*' :: '*' :: rest)
  | '/' :: '*' :: '*' :: _ => none
  | '/' :: '*' :: '!' :: _ => none
  | '/' :: '*' :: rest => afterBlockComment? 1 rest
  | _ => none

/-- Drops blanks and plain comments; a comment without an end is left where it is. -/
def skipBlanks : Nat → List Char → List Char
  | 0, s => s
  | fuel + 1, s =>
    match plainComment? s with
    | some rest => skipBlanks fuel rest
    | none =>
      match s with
      | c :: rest => if isBlank c then skipBlanks fuel rest else s
      | [] => []

def upTo (s rest : List Char) : List Char := s.take (s.length - rest.length)

/-- The text of a documentation comment and whether it belongs to what encloses it. -/
def documentation? (s : List Char) : Option (List Char × Bool × List Char) :=
  match s with
  | '/' :: '/' :: '!' :: rest => some (lineText rest, true, afterLine rest)
  | '/' :: '*' :: '!' :: rest =>
    (afterBlockComment? 1 ('!' :: rest)).map fun after => (blockText rest after, true, after)
  | '/' :: '/' :: '/' :: rest =>
    if rest.head? = some '/' then none else some (lineText rest, false, afterLine rest)
  | '/' :: '*' :: '*' :: rest =>
    if rest.head? = some '*' then none
    else (afterBlockComment? 1 ('*' :: rest)).map fun after => (blockText rest after, false, after)
  | _ => none
where
  lineText : List Char → List Char
    | [] => []
    | '\n' :: _ => []
    | '\r' :: '\n' :: _ => []
    | c :: rest => c :: lineText rest
  blockText (rest after : List Char) : List Char :=
    let text := upTo rest after
    text.take (text.length - 2)

/-- A carriage return may only stand before the end of a line. -/
def lineEndsOnly : List Char → Bool
  | [] => true
  | '\r' :: '\n' :: rest => lineEndsOnly rest
  | '\r' :: _ => false
  | _ :: rest => lineEndsOnly rest

def word? : List Char → Option (List Char)
  | [] => none
  | c :: rest =>
    if Text.beginsIdentifier c then some (rest.dropWhile Text.continuesIdentifier) else none

/-- A literal may have a word attached to it. -/
def afterSuffix (s : List Char) : List Char := (word? s).getD s

def isOctalHead (c : Char) : Bool := '0' ≤ c && c ≤ '7'

def isHexDigit (c : Char) : Bool := (Text.hexValue? c).isSome

def isAscii (c : Char) : Bool := c.toNat < 0x80

/-- The digits of a code point in braces, of which `count` with value `value` have been read. -/
def codePoint? (value count : Nat) : List Char → Option (Char × List Char)
  | [] => none
  | '\x7d' :: rest =>
    if count = 0 ∨ ¬ value.isValidChar then none else some (Char.ofNat value, rest)
  | '_' :: rest => if count = 0 then none else codePoint? value count rest
  | c :: rest =>
    match Text.hexValue? c with
    | some digit => if count = 6 then none else codePoint? (value * 16 + digit) (count + 1) rest
    | none => none

/-- Blanks after a backslash at the end of a line belong to the line break. At least one character
must follow them. -/
def afterContinuation? : List Char → Option (List Char)
  | [] => none
  | '\r' :: '\n' :: rest => afterContinuation? rest
  | '\r' :: _ => none
  | c :: rest =>
    if c = ' ' ∨ c = '\t' ∨ c = '\n' then afterContinuation? rest else some (c :: rest)

structure StringKind where
  /-- Only ASCII characters, and no code points by number. -/
  bytes : Bool
  /-- No zero character, however it is written. -/
  noZero : Bool

def textString : StringKind := ⟨false, false⟩
def byteString : StringKind := ⟨true, false⟩
def zeroFreeString : StringKind := ⟨false, true⟩

def hexEscapeOk (kind : StringKind) (a b : Char) : Bool :=
  if kind.bytes then isHexDigit a && isHexDigit b
  else if kind.noZero then isHexDigit a && isHexDigit b && !(a == '0' && b == '0')
  else isOctalHead a && isHexDigit b

def simpleEscapeOk (kind : StringKind) (c : Char) : Bool :=
  c == 'n' || c == 'r' || c == 't' || c == '\\' || c == '\'' || c == '"' ||
    (c == '0' && !kind.noZero)

def plainCharOk (kind : StringKind) (c : Char) : Bool :=
  if kind.bytes then isAscii c else !(kind.noZero && c == '\x00')

/-- A string up to its closing quote and suffix. Fuel is the length of the text. -/
def quoted? (kind : StringKind) : Nat → List Char → Option (List Char)
  | 0, _ => none
  | fuel + 1, s =>
    match s with
    | '"' :: rest => some (afterSuffix rest)
    | '\r' :: '\n' :: rest => quoted? kind fuel rest
    | '\r' :: _ => none
    | '\\' :: 'x' :: a :: b :: rest =>
      if hexEscapeOk kind a b then quoted? kind fuel rest else none
    | '\\' :: 'u' :: '\x7b' :: rest =>
      if kind.bytes then none else
        match codePoint? 0 0 rest with
        | some (c, rest) => if kind.noZero && c == '\x00' then none else quoted? kind fuel rest
        | none => none
    | '\\' :: '\n' :: rest => (afterContinuation? rest).bind (quoted? kind fuel)
    | '\\' :: '\r' :: '\n' :: rest => (afterContinuation? rest).bind (quoted? kind fuel)
    | '\\' :: c :: rest => if simpleEscapeOk kind c then quoted? kind fuel rest else none
    | c :: rest => if c ≠ '\\' ∧ plainCharOk kind c then quoted? kind fuel rest else none
    | [] => none

/-- The hash signs that begin a raw string, and the text after its opening quote. -/
def rawOpening? (s : List Char) : Option (Nat × List Char) :=
  let hashes := (s.takeWhile (· == '#')).length
  match s.dropWhile (· == '#') with
  | '"' :: rest => if hashes ≤ 255 then some (hashes, rest) else none
  | _ => none

def rawBody? (kind : StringKind) (hashes : Nat) : List Char → Option (List Char)
  | [] => none
  | '"' :: rest =>
    if rest.take hashes = List.replicate hashes '#' then some (afterSuffix (rest.drop hashes))
    else rawBody? kind hashes rest
  | '\r' :: '\n' :: rest => rawBody? kind hashes rest
  | '\r' :: _ => none
  | c :: rest => if plainCharOk kind c then rawBody? kind hashes rest else none

def raw? (kind : StringKind) (s : List Char) : Option (List Char) := do
  let (hashes, rest) ← rawOpening? s
  rawBody? kind hashes rest

def closeChar? : List Char → Option (List Char)
  | '\'' :: rest => some (afterSuffix rest)
  | _ => none

def char? : List Char → Option (List Char)
  | '\\' :: 'x' :: a :: b :: rest => if isOctalHead a && isHexDigit b then closeChar? rest else none
  | '\\' :: 'u' :: '\x7b' :: rest => (codePoint? 0 0 rest).bind fun (_, rest) => closeChar? rest
  | '\\' :: c :: rest => if simpleEscapeOk textString c then closeChar? rest else none
  | c :: rest => if c = '\\' then none else closeChar? rest
  | [] => none

def byte? : List Char → Option (List Char)
  | '\\' :: 'x' :: a :: b :: rest => if isHexDigit a && isHexDigit b then closeChar? rest else none
  | '\\' :: c :: rest => if simpleEscapeOk byteString c then closeChar? rest else none
  | c :: rest => if c ≠ '\\' ∧ isAscii c then closeChar? rest else none
  | [] => none

/-- The digits and signs of an exponent: whether there was a digit, and the rest. `none` when a
second sign comes before the first digit. -/
def exponent? (sign digit : Bool) : List Char → Option (Bool × List Char)
  | [] => some (digit, [])
  | c :: rest =>
    if c = '+' ∨ c = '-' then
      if digit then some (digit, c :: rest)
      else if sign then none
      else exponent? true digit rest
    else if c.isDigit then exponent? sign true rest
    else if c = '_' then exponent? sign digit rest
    else some (digit, c :: rest)

/-- A number with a point or an exponent. An exponent without digits is left for the suffix when
there was a point. -/
def floatDigits? (dot : Bool) : List Char → Option (List Char)
  | [] => if dot then some [] else none
  | '.' :: rest =>
    if dot then some ('.' :: rest)
    else
      match rest with
      | next :: _ =>
        if next = '.' ∨ Text.beginsIdentifier next then none else floatDigits? true rest
      | [] => some []
  | c :: rest =>
    if c.isDigit ∨ c = '_' then floatDigits? dot rest
    else if c = 'e' ∨ c = 'E' then
      match exponent? false false rest with
      | some (true, rest) => some rest
      | _ => if dot then some (c :: rest) else none
    else if dot then some (c :: rest) else none

/-- No word may run on after a number and its suffix. -/
def wordBreak? : List Char → Option (List Char)
  | [] => some []
  | c :: rest => if Text.continuesIdentifier c then none else some (c :: rest)

def float? : List Char → Option (List Char)
  | c :: rest =>
    if c.isDigit then (floatDigits? false rest).bind fun rest => wordBreak? (afterSuffix rest)
    else none
  | [] => none

/-- The digits of a whole number in a base; `any` says whether there was one yet. A letter that is
no digit of the base ends them, a decimal digit that is none is an error. -/
def baseDigits? (base : Nat) (any : Bool) : List Char → Option (List Char)
  | [] => if any then some [] else none
  | c :: rest =>
    if c = '_' then
      if base = 10 ∧ ¬ any then none else baseDigits? base any rest
    else
      match Text.hexValue? c with
      | some digit =>
        if digit < base then baseDigits? base true rest
        else if c.isDigit then none
        else if any then some (c :: rest) else none
      | none => if any then some (c :: rest) else none

def int? (s : List Char) : Option (List Char) :=
  let digits :=
    match s with
    | '0' :: 'x' :: rest => baseDigits? 16 false rest
    | '0' :: 'o' :: rest => baseDigits? 8 false rest
    | '0' :: 'b' :: rest => baseDigits? 2 false rest
    | s => baseDigits? 10 false s
  digits.bind fun rest => wordBreak? (afterSuffix rest)

def literal? (s : List Char) : Option (List Char) :=
  let fuel := s.length
  let string :=
    match s with
    | '"' :: rest => quoted? textString fuel rest
    | 'r' :: rest => raw? textString rest
    | 'b' :: '"' :: rest => quoted? byteString fuel rest
    | 'b' :: 'r' :: rest => raw? byteString rest
    | 'c' :: '"' :: rest => quoted? zeroFreeString fuel rest
    | 'c' :: 'r' :: rest => raw? zeroFreeString rest
    | 'b' :: '\'' :: rest => byte? rest
    | '\'' :: rest => char? rest
    | _ => none
  string <|> float? s <|> int? s

def stringBeginnings : List String :=
  ["r\"", "r#\"", "r##", "b\"", "b'", "br\"", "br#", "c\"", "cr\"", "cr#"]

/-- The words that have no form with `r#`. -/
def neverRaw : List String := ["_", "super", "self", "Self", "crate"]

def anyWord? (s : List Char) : Option (String × Bool × List Char) :=
  match s with
  | 'r' :: '#' :: raw => do
    let rest ← word? raw
    let name := String.ofList (upTo raw rest)
    if neverRaw.contains name then none else some (name, true, rest)
  | s => do
    let rest ← word? s
    some (String.ofList (upTo s rest), false, rest)

def punctuation : List Char := "~!@#$%^&*-=+|;:,<.>/?'".toList

def punct? : List Char → Option (Char × List Char)
  | '/' :: '/' :: _ => none
  | '/' :: '*' :: _ => none
  | c :: rest => if punctuation.contains c then some (c, rest) else none
  | [] => none

/-- A quote is punctuation only before a word that no second quote follows. -/
def lifetimeFollows (rest : List Char) : Bool :=
  match anyWord? rest with
  | none => false
  | some (_, raw, after) =>
    !(after.head? == some '\'' || (after.head? == some '#' && !raw))

end DocFilter.Source
