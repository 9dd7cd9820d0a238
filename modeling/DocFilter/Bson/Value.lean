import DocFilter.Number.Double

/-!
Document values. A document is its list of entries in the order in which the keys were first
stored. The operations on it look a key up at its first entry and never store a key twice, so a
document that is built by them alone holds every key once.
-/

namespace DocFilter

inductive Value where
  | double (x : Double)
  | string (text : String)
  | document (entries : List (String × Value))
  | array (items : List Value)
  | binary (subtype : UInt8) (bytes : List UInt8)
  | undefined
  | objectId (bytes : List UInt8)
  | bool (b : Bool)
  | dateTime (millis : Int64)
  | null
  | regex (pattern options : String)
  | dbPointer (collection : String) (id : List UInt8)
  | javascript (code : String)
  | symbol (text : String)
  | javascriptWithScope (code : String) (scope : List (String × Value))
  | int32 (n : Int32)
  | timestamp (time increment : UInt32)
  | int64 (n : Int64)
  | decimal128 (bytes : List UInt8)
  | minKey
  | maxKey
  deriving Inhabited

abbrev Document := List (String × Value)

namespace Document

def get? : Document → String → Option Value
  | [], _ => none
  | (key, value) :: rest, k => if key = k then some value else get? rest k

def keys (d : Document) : List String := d.map Prod.fst

def contains (d : Document) (k : String) : Bool := (get? d k).isSome

/-- Stores `change old` at `k`: in the place of the old value if there is one, else at the end. -/
def alter (k : String) (change : Option Value → Value) : Document → Document
  | [] => [(k, change none)]
  | (key, value) :: rest =>
    if key = k then (key, change (some value)) :: rest else (key, value) :: alter k change rest

/-- A key that is present keeps its place. -/
def insert (d : Document) (k : String) (value : Value) : Document := alter k (fun _ => value) d

/-- A repeated key takes the last value and keeps the first place. -/
def ofEntries (entries : List (String × Value)) : Document :=
  entries.foldl (fun d entry => insert d entry.1 entry.2) []

theorem get?_alter (k j : String) (change : Option Value → Value) (d : Document) :
    get? (alter k change d) j = if j = k then some (change (get? d k)) else get? d j := by
  induction d with
  | nil =>
    by_cases h : j = k
    · subst h; simp [alter, get?]
    · simp [alter, get?, h, Ne.symm h]
  | cons entry rest ih =>
    obtain ⟨key, value⟩ := entry
    by_cases hk : key = k
    · subst hk
      by_cases hj : j = key
      · subst hj; simp [alter, get?]
      · simp [alter, get?, hj, Ne.symm hj]
    · by_cases hj : j = k
      · subst hj
        simp [alter, get?, hk, ih]
      · simp [alter, get?, hk, ih, hj]

/-- A stored key stays where it is, and a new one comes last. -/
theorem keys_alter (k : String) (change : Option Value → Value) (d : Document) :
    keys (alter k change d) = if k ∈ keys d then keys d else keys d ++ [k] := by
  induction d with
  | nil => simp [alter, keys]
  | cons entry rest ih =>
    obtain ⟨key, value⟩ := entry
    by_cases hk : key = k
    · simp [alter, keys, hk]
    · have hk' : k ≠ key := fun h => hk h.symm
      simp only [keys] at ih
      by_cases hm : k ∈ rest.map Prod.fst <;> simp [alter, keys, hk, hk', ih, hm]

end Document

end DocFilter
