import DocFilter.Proofs.Document.Lookup

/-! Documents that hold every key once, at every depth. Values nest through documents, arrays and
the scopes of code, so everything about all depths is proved from the values that stand directly
inside a value. -/

namespace DocFilter
namespace Value

def children : Value → List Value
  | .document entries => entries.map Prod.snd
  | .array items => items
  | .javascriptWithScope _ scope => scope.map Prod.snd
  | _ => []

/-- The keys that a value holds itself, without those of its children. -/
def names : Value → List String
  | .document entries => Document.keys entries
  | .javascriptWithScope _ scope => Document.keys scope
  | _ => []

theorem sizeOf_snd_lt {entries : List (String × Value)} {w : Value}
    (h : w ∈ entries.map Prod.snd) : sizeOf w < sizeOf entries := by
  obtain ⟨⟨k, v⟩, he, rfl⟩ := List.mem_map.1 h
  have h1 : sizeOf (k, v) < sizeOf entries := List.sizeOf_lt_of_mem he
  have h2 : sizeOf (k, v) = 1 + sizeOf k + sizeOf v := rfl
  change sizeOf v < sizeOf entries
  omega

theorem sizeOf_child_lt {v w : Value} (h : w ∈ v.children) : sizeOf w < sizeOf v := by
  cases v with
  | document entries =>
    have := sizeOf_snd_lt h
    simp only [document.sizeOf_spec]
    omega
  | array items =>
    have : sizeOf w < sizeOf items := List.sizeOf_lt_of_mem h
    simp only [array.sizeOf_spec]
    omega
  | javascriptWithScope code scope =>
    have := sizeOf_snd_lt h
    simp only [javascriptWithScope.sizeOf_spec]
    omega
  | _ => cases h

/-- A property that passes from the children of a value to the value holds everywhere. -/
theorem induction_on_children {motive : Value → Prop}
    (step : ∀ v, (∀ w ∈ v.children, motive w) → motive v) (v : Value) : motive v :=
  step v fun w _ => induction_on_children step w
termination_by sizeOf v
decreasing_by exact sizeOf_child_lt ‹_›

/-- No document inside the value, nor the value itself, holds a key twice. -/
inductive Distinct : Value → Prop where
  | intro (v : Value) (names : v.names.Nodup) (children : ∀ w ∈ v.children, Distinct w) : Distinct v

theorem distinct_iff (v : Value) :
    v.Distinct ↔ v.names.Nodup ∧ ∀ w ∈ v.children, w.Distinct := by
  constructor
  · rintro ⟨_, hn, hc⟩
    exact ⟨hn, hc⟩
  · rintro ⟨hn, hc⟩
    exact ⟨v, hn, hc⟩

@[simp] theorem distinct_document (d : Document) :
    (document d).Distinct ↔ (Document.keys d).Nodup ∧ ∀ w ∈ d.map Prod.snd, w.Distinct :=
  distinct_iff _

@[simp] theorem distinct_array (items : List Value) :
    (array items).Distinct ↔ ∀ w ∈ items, w.Distinct := by
  rw [distinct_iff]
  simp [names, children]

theorem distinct_of_leaf {v : Value} (hn : v.names = []) (hc : v.children = []) : v.Distinct := by
  rw [distinct_iff, hn, hc]
  simp

theorem Distinct.keys {d : Document} (h : (document d).Distinct) : (Document.keys d).Nodup :=
  ((distinct_document d).1 h).1

theorem Distinct.get? {d : Document} (h : (document d).Distinct) {k : String} {v : Value}
    (hv : Document.get? d k = some v) : v.Distinct := by
  apply ((distinct_document d).1 h).2
  exact List.mem_map.2 ⟨_, Document.mem_of_get? hv, rfl⟩

theorem distinct_document_of_get? {d : Document} (hk : (Document.keys d).Nodup)
    (hv : ∀ k v, Document.get? d k = some v → v.Distinct) : (document d).Distinct := by
  rw [distinct_document]
  refine ⟨hk, fun w hw => ?_⟩
  obtain ⟨⟨k, v⟩, he, rfl⟩ := List.mem_map.1 hw
  exact hv k v (Document.get?_of_mem hk he)

theorem mem_children_of_get? {d : Document} {k : String} {v : Value}
    (h : Document.get? d k = some v) : v ∈ (document d).children :=
  List.mem_map.2 ⟨_, Document.mem_of_get? h, rfl⟩

end Value

end DocFilter
