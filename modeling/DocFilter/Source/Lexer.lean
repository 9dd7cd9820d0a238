import DocFilter.Source.Lexeme
import DocFilter.Source.Token
import DocFilter.Text.Quoted

/-!
From text to tokens. Comments are dropped, except that a documentation comment stands for the
attribute that it abbreviates. The text is split into lexemes first, and the brackets among them are
matched afterwards.
-/

namespace DocFilter.Source

inductive Lexeme where
  | leaf (tree : Tree)
  | opening (d : Delimiter)
  | closing (d : Delimiter)

/-- A zero is written as `\0` unless an octal digit follows it, and a single quote as it is. -/
def documentationText : List Char → List Char
  | [] => []
  | '\x00' :: rest =>
    (if rest.head?.any isOctalHead then ['\\', 'x', '0', '0'] else ['\\', '0']) ++
      documentationText rest
  | c :: rest => Text.quotedChar c ++ documentationText rest

def documentationTrees (text : List Char) (inner : Bool) : List Tree :=
  let literal := "\"" ++ String.ofList (documentationText text) ++ "\""
  [.punct '#' false] ++ (if inner then [.punct '!' false] else []) ++
    [.group .bracket [.word "doc" false, .punct '=' false, .literal literal]]

def delimiterOf? (c : Char) : Option Lexeme :=
  match Delimiter.all.find? (·.opening == c), Delimiter.all.find? (·.closing == c) with
  | some d, _ => some (.opening d)
  | none, some d => some (.closing d)
  | none, none => none

def errorMark : List Char := "(/*ERROR*/)".toList

def leaf? (s : List Char) : Option (Tree × List Char) :=
  match literal? s with
  | some rest => some (.literal (String.ofList (upTo s rest)), rest)
  | none =>
    match punct? s with
    | some ('\'', rest) => if lifetimeFollows rest then some (.punct '\'' true, rest) else none
    | some (c, rest) => some (.punct c (punct? rest).isSome, rest)
    | none =>
      if stringBeginnings.any fun b => b.toList.isPrefixOf s then none
      else (anyWord? s).map fun (name, raw, rest) => (.word name raw, rest)

/-- Every lexeme takes a character, so the length of the text is enough fuel. -/
def lexemes? : Nat → List Char → Option (List Lexeme)
  | 0, _ => none
  | fuel + 1, s =>
    let s := skipBlanks s.length s
    match documentation? s with
    | some (text, inner, rest) =>
      if lineEndsOnly text then
        (lexemes? fuel rest).map ((documentationTrees text inner).map .leaf ++ ·)
      else none
    | none =>
      match s with
      | [] => some []
      | c :: rest =>
        if errorMark.isPrefixOf s then
          (lexemes? fuel (s.drop errorMark.length)).map
            (.leaf (.literal (String.ofList errorMark)) :: ·)
        else
          match delimiterOf? c with
          | some bracket => (lexemes? fuel rest).map (bracket :: ·)
          | none => do
            let (tree, rest) ← leaf? s
            (lexemes? fuel rest).map (.leaf tree :: ·)

/-- Matches brackets. The stack holds what stood before each open one, backwards. -/
def nest? : List (Delimiter × List Tree) → List Tree → List Lexeme → Option (List Tree)
  | [], current, [] => some current.reverse
  | _ :: _, _, [] => none
  | stack, current, .leaf tree :: rest => nest? stack (tree :: current) rest
  | stack, current, .opening d :: rest => nest? ((d, current) :: stack) [] rest
  | [], _, .closing _ :: _ => none
  | (d, outer) :: stack, current, .closing e :: rest =>
    if d = e then nest? stack (.group d current.reverse :: outer) rest else none

def byteOrderMark : Char := '\ufeff'

/-- The tokens of a text. A byte order mark at its beginning is dropped. -/
def trees? (text : String) : Option (List Tree) := do
  let s := match text.toList with
    | c :: rest => if c = byteOrderMark then rest else c :: rest
    | [] => []
  nest? [] [] (← lexemes? (s.length + 1) s)

end DocFilter.Source
