import DocFilter.Source.Grammar.Items

/-!
The grammar as a whole.
-/

namespace DocFilter.Source

def rule : Construct → Reader Form
  | .expression structs => Reader.expression structs
  | .unary structs => Reader.unary structs
  | .operators left structs least => Reader.operators left structs least
  | .operand structs precedence => Reader.operand structs precedence
  | .bounded => Reader.bounded
  | .pattern => Reader.pattern
  | .singlePattern => Reader.singlePattern
  | .type plus => Reader.type plus
  | .bound capture const => Reader.bound capture const
  | .genericArguments => Reader.genericArguments
  | .block => .unmarked Reader.block
  | .statements => .unmarked Reader.statements
  | .item => .unmarked Reader.item
  | .fields => .unmarked (discard Reader.namedFields)
  | .imports rooted => .unmarked (Reader.imports rooted)

/-- Reads constructs that are nested up to a depth. -/
def grammarUpTo : Nat → Grammar
  | 0 => ⟨fun _ _ => none, by rintro _ _ _ _ ⟨⟩⟩
  | depth + 1 =>
    ⟨fun k => (rule k).run (grammarUpTo depth), fun k => (rule k).isLocal (grammarUpTo depth)⟩

/-- A grammar that is deep enough for some tokens: a construct that begins with another one without
consuming a token ranks above it. -/
def grammarFor (ts : List Tree) : Grammar := grammarUpTo (Construct.ranks * (treesSize ts + 1))

def readAll? {α : Type} (ts : List Tree) (r : Reader α) : Option α := do
  let (x, c) ← r.run (grammarFor ts) ⟨ts, []⟩
  if c.rest.isEmpty then some x else none

end DocFilter.Source
