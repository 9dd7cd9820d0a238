/-!
Tokens of Rust source text, grouped by their brackets. Every punctuation character is a token of
its own, which remembers whether another one follows it at once. The quote that begins a lifetime is
punctuation, and the name of the lifetime is the word after it.
-/

namespace DocFilter.Source

inductive Delimiter where
  | paren | bracket | brace
  deriving DecidableEq

namespace Delimiter

def opening : Delimiter → Char
  | paren => '('
  | bracket => '['
  | brace => '\x7b'

def closing : Delimiter → Char
  | paren => ')'
  | bracket => ']'
  | brace => '\x7d'

def all : List Delimiter := [paren, bracket, brace]

end Delimiter

inductive Tree where
  /-- A name or a keyword; `raw` says that it is written with `r#` before it. -/
  | word (name : String) (raw : Bool)
  | punct (c : Char) (joint : Bool)
  /-- A literal as it is written, with its suffix. -/
  | literal (text : String)
  | group (delimiter : Delimiter) (content : List Tree)
  deriving Inhabited

def wordText (name : String) (raw : Bool) : String := if raw then "r#" ++ name else name

mutual

/-- The texts of the single tokens, brackets included. -/
def Tree.texts : Tree → List String
  | .word name raw => [wordText name raw]
  | .punct c _ => [c.toString]
  | .literal text => [text]
  | .group d content => [d.opening.toString] ++ treeTexts content ++ [d.closing.toString]

def treeTexts : List Tree → List String
  | [] => []
  | tree :: rest => tree.texts ++ treeTexts rest

end

mutual

/-- How many tokens there are, counting each pair of brackets once. -/
def Tree.size : Tree → Nat
  | .group _ content => treesSize content + 1
  | _ => 1

def treesSize : List Tree → Nat
  | [] => 0
  | tree :: rest => tree.size + treesSize rest

end

theorem Tree.size_pos (tree : Tree) : 0 < tree.size := by
  cases tree <;> simp [size]

theorem treesSize_append (ts rest : List Tree) :
    treesSize (ts ++ rest) = treesSize ts + treesSize rest := by
  induction ts with
  | nil => simp [treesSize]
  | cons tree ts ih => simp only [List.cons_append, treesSize, ih, Nat.add_assoc]

def spaced (texts : List String) : String := " ".intercalate texts

end DocFilter.Source
