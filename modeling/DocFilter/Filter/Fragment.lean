import DocFilter.Bson.Equality
import DocFilter.Filter.Keyword

/-!
One-entry operator documents, and the comparisons that are written as one of them.
-/

namespace DocFilter

/-- The document that holds `value` under the keyword and nothing else. -/
def fragment (k : Keyword) (value : Value) : Value := .document [(k.text, value)]

inductive Relation where
  | eq | ne | gt | gte | lt | lte
  deriving DecidableEq

inductive Membership where
  | isIn | notIn
  deriving DecidableEq

inductive Comparator where
  | relation (r : Relation)
  | membership (m : Membership)
  deriving DecidableEq

namespace Comparator

def all : List Comparator :=
  [.relation .eq, .relation .ne, .relation .gt, .relation .gte, .relation .lt, .relation .lte,
    .membership .isIn, .membership .notIn]

def name : Comparator → String
  | .relation .eq => "Eq"
  | .relation .ne => "Ne"
  | .relation .gt => "Gt"
  | .relation .gte => "Gte"
  | .relation .lt => "Lt"
  | .relation .lte => "Lte"
  | .membership .isIn => "In"
  | .membership .notIn => "Nin"

def ofName? (s : String) : Option Comparator := all.find? (·.name == s)

def keyword : Comparator → Keyword
  | .relation .eq => .eq
  | .relation .ne => .ne
  | .relation .gt => .gt
  | .relation .gte => .gte
  | .relation .lt => .lt
  | .relation .lte => .lte
  | .membership .isIn => .isIn
  | .membership .notIn => .notIn

theorem ofName?_name (c : Comparator) : ofName? c.name = some c := by
  cases c with
  | relation r => cases r <;> decide
  | membership m => cases m <;> decide

end Comparator

inductive Comparison where
  | relation (r : Relation) (operand : Value)
  | membership (m : Membership) (operands : List Value)

namespace Comparison

def comparator : Comparison → Comparator
  | .relation r _ => .relation r
  | .membership m _ => .membership m

def operand : Comparison → Value
  | .relation _ value => value
  | .membership _ values => .array values

def keyword (c : Comparison) : Keyword := c.comparator.keyword

def document (c : Comparison) : Document := [(c.keyword.text, c.operand)]

def toValue (c : Comparison) : Value := .document c.document

def equal : Comparison → Comparison → Bool
  | .relation r x, .relation s y => r == s && x.equal y
  | .membership m xs, .membership n ys => m == n && equalItems xs ys
  | _, _ => false

end Comparison
end DocFilter
