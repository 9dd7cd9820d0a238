import DocFilter.Filter.Fragment

/-!
The negation of a field's constraint. An operator fragment is wrapped in `$not`, unless it is a
lone `$not` already, which is taken off; any other value is turned into `$ne`.
-/

namespace DocFilter

def Document.isOperatorFragment (d : Document) : Bool := !d.isEmpty && d.keys.all isOperator

/-- What stands under `$not` in a document that has no other key. -/
def Document.loneNot? : Document → Option Value
  | [(key, value)] => if key = Keyword.not.text then some value else none
  | _ => none

inductive Negation where
  | unwrap
  | wrap
  | differ
  deriving DecidableEq

def Value.negation : Value → Negation × Value
  | .document d =>
    if Document.isOperatorFragment d then
      match Document.loneNot? d with
      | some inner => (.unwrap, inner)
      | none => (.wrap, fragment .not (.document d))
    else (.differ, fragment .ne (.document d))
  | value => (.differ, fragment .ne value)

end DocFilter
