import DocFilter.Bson.Kind
import DocFilter.Filter.Merge
import DocFilter.Filter.Negation

/-!
A filter is the document that its constraints have been merged into. Whatever is asked of a filter
comes down to a list of constraints, which are added one after the other, and the journal of that
run says for each of them whether its key was new.
-/

namespace DocFilter

structure Filter where
  document : Document

structure MalformedArgument where
  detail : String
  deriving DecidableEq

namespace MalformedArgument

def message (e : MalformedArgument) : String := "malformed argument: " ++ e.detail

def elementCondition (k : Kind) : MalformedArgument :=
  ⟨"$elemMatch expects a document, got " ++ k.element⟩

end MalformedArgument

/-- A value for a key of the filter, with the way it was negated if it is a negation. -/
structure Constraint where
  field : String
  value : Value
  negation : Option Negation

inductive Event where
  | inserting (field : String)
  | merging (field : String)
  | negating (field : String) (negation : Negation)
  | refusing (field : String) (cause : MalformedArgument)
  deriving DecidableEq

namespace Event

def isDetail : Event → Bool
  | .inserting _ | .merging _ => true
  | .negating .. | .refusing .. => false

def field : Event → String
  | .inserting f | .merging f | .negating f _ | .refusing f _ => f

def message : Event → String
  | .inserting _ => "inserting key"
  | .merging _ => "merging into existing key"
  | .negating _ .unwrap => "unwrapping $not"
  | .negating _ .wrap => "negating with $not"
  | .negating _ .differ => "negating with $ne"
  | .refusing .. => "rejected $elemMatch argument"

def cause? : Event → Option MalformedArgument
  | .refusing _ cause => some cause
  | _ => none

end Event

namespace Constraint

def ofEntry (entry : String × Value) : Constraint := ⟨entry.1, entry.2, none⟩

def ofNegated (entry : String × Value) : Constraint :=
  let (negation, value) := entry.2.negation
  ⟨entry.1, value, some negation⟩

def events (c : Constraint) (d : Document) : List Event :=
  let arrival := if d.contains c.field then Event.merging c.field else .inserting c.field
  match c.negation with
  | none => [arrival]
  | some n => [.negating c.field n, arrival]

end Constraint

namespace Filter

def empty : Filter := ⟨[]⟩

def isEmpty (f : Filter) : Bool := f.document.isEmpty

/-- Equality of the documents, without regard to the order of keys. -/
def equal (f g : Filter) : Bool := Document.equal f.document g.document

def add (f : Filter) (field : String) (value : Value) : Filter :=
  ⟨Document.add f.document field value⟩

def addAll (f : Filter) : List Constraint → Filter
  | [] => f
  | c :: rest => (f.add c.field c.value).addAll rest

def journal (f : Filter) : List Constraint → List Event
  | [] => []
  | c :: rest => c.events f.document ++ (f.add c.field c.value).journal rest

def toValue (f : Filter) : Value := .document f.document

/-- Every entry is added in order, which is also how a filter is collected from entries. -/
def extend (f : Filter) (entries : List (String × Value)) : Filter :=
  f.addAll (entries.map Constraint.ofEntry)

theorem addAll_append (f : Filter) (cs ds : List Constraint) :
    f.addAll (cs ++ ds) = (f.addAll cs).addAll ds := by
  induction cs generalizing f with
  | nil => rfl
  | cons c rest ih => exact ih _

theorem journal_append (f : Filter) (cs ds : List Constraint) :
    f.journal (cs ++ ds) = f.journal cs ++ (f.addAll cs).journal ds := by
  induction cs generalizing f with
  | nil => rfl
  | cons c rest ih => simp [journal, addAll, ih]

end Filter
end DocFilter
