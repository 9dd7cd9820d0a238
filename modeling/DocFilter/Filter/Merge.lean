import DocFilter.Bson.Value

/-!
The merge rule. Where both values are documents their entries are merged key by key with this same
rule; where both are arrays the incoming items are appended; in every other case the incoming value
replaces the stored one. The recursion is on the incoming value alone.
-/

namespace DocFilter

mutual

/-- What is stored when `incoming` arrives where `current` was. -/
def Value.mergeInto : (incoming current : Value) → Value
  | .document entries, .document d => .document (mergeEntries entries d)
  | .array items, .array old => .array (old ++ items)
  | value, _ => value

/-- Every entry in its order meets the value that is stored under its key at that moment. -/
def mergeEntries : List (String × Value) → Document → Document
  | [], d => d
  | (key, value) :: rest, d =>
    mergeEntries rest (Document.alter key
      (fun
        | none => value
        | some old => value.mergeInto old) d)

end

/-- What is stored when `incoming` arrives at a place that may be free. -/
def Value.arrive (incoming : Value) : Option Value → Value
  | none => incoming
  | some current => incoming.mergeInto current

namespace Document

def add (d : Document) (key : String) (value : Value) : Document := alter key value.arrive d

def merge (d incoming : Document) : Document := mergeEntries incoming d

theorem mergeEntries_cons (key : String) (value : Value) (rest : List (String × Value))
    (d : Document) : mergeEntries ((key, value) :: rest) d = mergeEntries rest (add d key value) := by
  rw [mergeEntries]
  rfl

theorem keys_add (d : Document) (key : String) (value : Value) :
    keys (add d key value) = if key ∈ keys d then keys d else keys d ++ [key] :=
  keys_alter key _ d

end Document
end DocFilter
