import DocFilter.Filter.Call

/-!
Scripts that build filters. The arguments of a step may contain filters that are built on the spot
by further steps, so values, filters and steps are defined together.
-/

namespace DocFilter

inductive MemberTest where
  | isIn | notIn | all | noneOf
  deriving DecidableEq

mutual

/-- A value that is still to be evaluated. -/
inductive Term where
  | value (v : Value)
  | array (items : List Term)
  | document (entries : List (String × Term))
  | javascriptWithScope (code : String) (scope : List (String × Term))
  /-- The document of a filter. -/
  | filter (source : FilterTerm)
  /-- The document of a comparison with one value. -/
  | relation (r : Relation) (operand : Term)
  /-- The document of a comparison with a list of values. -/
  | membership (m : Membership) (operands : List Term)

inductive FilterTerm where
  /-- The steps are taken on an empty filter. -/
  | steps (steps : List Step)
  /-- The document is the filter's document as it stands. -/
  | document (entries : List (String × Term))
  /-- The entries are added one by one to an empty filter. -/
  | entries (entries : List (String × Term))
  /-- A filter that has a name. -/
  | named (name : String)

inductive ConditionTerm where
  | finished (source : FilterTerm)
  | deferred (steps : List Step)
  | raw (term : Term)

inductive Step where
  /-- A call whose arguments are all at hand. -/
  | call (c : Call)
  | put (field : String) (value : Term)
  | relation (field : String) (r : Relation) (operand : Term)
  | members (field : String) (test : MemberTest) (values : List Term)
  | elements (field : String) (condition : ConditionTerm)
  | noElements (field : String) (condition : ConditionTerm)
  | combine (clause : Clause) (sources : List FilterTerm)
  | negate (source : FilterTerm)
  | merge (source : FilterTerm)
  | extend (entries : List (String × Term))
  /-- Puts another filter in the place of this one. -/
  | set (source : FilterTerm)
  /-- Puts the filter that a JSON text describes in the place of this one. -/
  | read (text : String)
  | isEmpty
  | equals (source : FilterTerm)
  | get (field : String)
  | document
  | display
  | annotated
  | compactJson

end

namespace Step

def greater (field : String) (operand : Term) : Step := .relation field .gt operand

def greaterOrEqual (field : String) (operand : Term) : Step := .relation field .gte operand

def less (field : String) (operand : Term) : Step := .relation field .lt operand

def lessOrEqual (field : String) (operand : Term) : Step := .relation field .lte operand

def notEqual (field : String) (operand : Term) : Step := .relation field .ne operand

def isIn (field : String) (values : List Term) : Step := .members field .isIn values

/-- Another name of `isIn`. -/
def isAny : (field : String) → (values : List Term) → Step := isIn

def notIn (field : String) (values : List Term) : Step := .members field .notIn values

end Step

instance : Inhabited Term := ⟨.value .null⟩
instance : Inhabited Step := ⟨.isEmpty⟩

end DocFilter
