import DocFilter.Expansion.FieldEnum
import DocFilter.Filter.Call

/-!
Filters that are written as text: fields with their values, separated by commas. A value that is a
call of one of the eight comparison operators with one argument stands for that comparison, and the
fields are variants of a field enum if the text begins with the name of its module.
-/

namespace DocFilter

open Source

inductive WrittenKey where
  | text (s : String)
  | word (n : Name)

structure WrittenEntry where
  key : WrittenKey
  comparator : Option Comparator
  /-- The tokens of the value, or of the argument of the comparison. -/
  operand : List String

structure WrittenFilter where
  module : Option Name
  entries : List WrittenEntry

namespace WrittenEntry

def readKey : Reader WrittenKey := do
  match ← Reader.token with
  | .literal text =>
    let some s := stringValue? text | Reader.fail
    return .text s
  | .word text raw => return .word ⟨text, raw⟩
  | _ => Reader.fail

/-- A call of an operator with one argument is a comparison, and everything else a value. -/
def ofValue (key : WrittenKey) (form : Form) (texts : List String) : WrittenEntry :=
  match form with
  | .call (some callee) [argument] =>
    match Comparator.ofName? callee with
    | some c => ⟨key, some c, argument⟩
    | none => ⟨key, none, texts⟩
  | _ => ⟨key, none, texts⟩

def read : Reader WrittenEntry := do
  let key ← readKey
  Reader.operator ":"
  let (form, texts) ← Reader.captured (Reader.call (.expression true))
  return ofValue key form texts

end WrittenEntry

namespace WrittenFilter

/-- A name with a comma directly after it is the name of a module. -/
def readModule : Reader (Option Name) := do
  let ts ← Reader.ahead
  if atName ts && atOp "," (after ts) then
    let n ← Reader.name
    Reader.operator ","
    return some n
  else return none

def read : Reader WrittenFilter := do
  let module ← readModule
  return ⟨module, ← Reader.commaSeparated WrittenEntry.read⟩

def ofSource? (source : String) : Option WrittenFilter := do readAll? (← trees? source) read

end WrittenFilter

inductive Key where
  | path (s : String)
  | variant (module name : String)
  deriving DecidableEq

structure FilterEntry where
  key : Key
  comparator : Option Comparator
  operand : String

structure FilterText where
  entries : List FilterEntry
  /-- The path of the library. -/
  route : String

/-- A name is a variant if there is a module, and the path of that name otherwise. -/
def Key.ofWritten (module : Option Name) : WrittenKey → Except ExpansionError Key
  | .text s => .ok (.path s)
  | .word n =>
    match module with
    | some m => return .variant m.written (← variantName n.text)
    | none => .ok (.path n.text)

namespace FilterEntry

def ofWritten (module : Option Name) (e : WrittenEntry) : Except ExpansionError FilterEntry :=
  return ⟨← Key.ofWritten module e.key, e.comparator, spaced e.operand⟩

end FilterEntry

namespace FilterText

def ofWritten (route : Except ExpansionError String) (w : WrittenFilter) :
    Except ExpansionError FilterText :=
  return ⟨← w.entries.mapM (FilterEntry.ofWritten w.module), ← route⟩

def ofSource (route : Except ExpansionError String) (source : String) :
    Except ExpansionError FilterText :=
  match WrittenFilter.ofSource? source with
  | some w => ofWritten route w
  | none => .error .malformedSource

end FilterText

/-- What the parts of a text stand for where it is used. -/
structure Surroundings where
  /-- The path of a variant in a module. -/
  path : (module variant : String) → String
  value : (operand : String) → Value
  /-- The values that an operand gives one after the other. -/
  values : (operand : String) → List Value

namespace Surroundings

def field (s : Surroundings) : Key → String
  | .path path => path
  | .variant module name => s.path module name

end Surroundings

def FilterEntry.call (s : Surroundings) (e : FilterEntry) : Call :=
  match e.comparator with
  | none => .put (s.field e.key) (s.value e.operand)
  | some (.relation r) => .compare (s.field e.key) (.relation r (s.value e.operand))
  | some (.membership m) => .compare (s.field e.key) (.membership m (s.values e.operand))

/-- The calls are made in their order, beginning with an empty filter. -/
def FilterText.filter (s : Surroundings) (t : FilterText) : Filter :=
  t.entries.foldl (fun f e => (f.perform (e.call s)).filter) .empty

end DocFilter
