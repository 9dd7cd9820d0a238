/-!
The constructs of the grammar, and what has to be known of one once it has been read.
-/

namespace DocFilter.Source

/-- How tightly an operator binds, beginning with the loosest. -/
inductive Precedence where
  | loosest | assign | range | or | and | binding | compare | bitOr | bitXor | bitAnd | shift | sum
  | product | cast
  deriving DecidableEq

instance : LT Precedence := ⟨fun p q => p.ctorIdx < q.ctorIdx⟩

instance : DecidableLT Precedence := fun p q => inferInstanceAs (Decidable (p.ctorIdx < q.ctorIdx))

inductive Form where
  | other
  /-- An expression that is one word without arguments. -/
  | name (text : String)
  /-- A call, with the callee if that is one word, and the arguments as they are written. -/
  | call (callee : Option String) (arguments : List (List String))
  | literal (text : String)
  | range
  | comparison
  /-- An expression that ends with its block and needs nothing after it as a statement. -/
  | block
  | braceMacro
  /-- A type that is a path of one segment. -/
  | segment
  /-- A type that is any other path. -/
  | route
  /-- A bound that names a trait, or a type that is one such bound. -/
  | trait
  | parenthesized
  /-- A pattern that is a range with an open end. -/
  | openRange
  deriving DecidableEq

def Form.callee? : Form → Option String
  | .name text => some text
  | _ => none

inductive Construct where
  /-- An expression; `structs` says whether it may begin a struct literal. -/
  | expression (structs : Bool)
  | unary (structs : Bool)
  /-- The operators after an operand that has been read, down to a precedence. -/
  | operators (left : Form) (structs : Bool) (least : Precedence)
  /-- The right operand of an operator of the given precedence. -/
  | operand (structs : Bool) (precedence : Precedence)
  /-- An expression that may end with its block, as in statements and match arms. -/
  | bounded
  | pattern
  | singlePattern
  /-- A type; `plus` says whether bounds may be added to it. -/
  | type (plus : Bool)
  | bound (capture const : Bool)
  | genericArguments
  /-- A block whose braces hold statements only. -/
  | block
  | statements
  | item
  /-- Fields with names, in their braces. -/
  | fields
  /-- One name or list of names that is brought into scope. -/
  | imports (rooted : Bool)

/-- A construct that can begin with another one without a token before it ranks above that one. -/
def Construct.rank : Construct → Nat
  | .statements => 3
  | .bounded => 2
  | .expression _ | .operand .. | .pattern | .type _ => 1
  | _ => 0

def Construct.ranks : Nat := 4

theorem Construct.rank_lt (k : Construct) : k.rank < ranks := by cases k <;> simp [rank, ranks]

end DocFilter.Source
