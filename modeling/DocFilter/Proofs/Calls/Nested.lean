import DocFilter.Proofs.Calls.Keys

/-! Merging at any depth. A filter takes in another one, or its entries, by the rule by which two
documents meet inside of a value. So two filters that stand at the end of one chain of keys merge
there as they would at the top, and so do the conditions of two matches of elements. -/

namespace DocFilter
namespace Filter

/-- Two values that are put under a new key one after the other are put there as what they merge
into. -/
theorem perform_put_put {x : Filter} {k : String} (h : k ∉ Document.keys x.document) (v w : Value) :
    ((x.perform (.put k v)).filter.perform (.put k w)).filter =
      (x.perform (.put k (w.mergeInto v))).filter :=
  congrArg Filter.mk (Document.add_add_of_not_mem v w h)

/-- A value that is put at the end of a chain of keys meets what is stored there. -/
theorem at?_perform_put_under (x : Filter) (k : String) (p : List String) (w : Value) :
    (x.perform (.put k (w.under p))).filter.toValue.at? (k :: p) =
      some (w.arrive (x.toValue.at? (k :: p))) := by
  rw [toValue_perform_put x (k, w.under p)]
  exact Value.at?_mergeInto_under w x.toValue (k :: p)

/-- To merge a filter, to extend by its entries, and to merge its document as a value are one
operation. So where a filter stands at the end of a chain of keys, another one that is put there
merges with it, and the chain then leads to what the two merge into; and two matches of the elements
of a new field are one match with the conditions merged. -/
theorem merge_at_every_depth (a b : Filter) :
    let m := (a.perform (.merge b)).filter
    (a.perform (.extend b.document)).filter = m ∧
      b.toValue.mergeInto a.toValue = m.toValue ∧
      (∀ (x : Filter) (k : String) (p : List String), x.toValue.at? (k :: p) = some a.toValue →
        (x.perform (.put k (b.toValue.under p))).filter.toValue.at? (k :: p) = some m.toValue) ∧
      (∀ (x : Filter) (k : String) (p : List String), k ∉ Document.keys x.document →
        x.putAll [(k, a.toValue.under p), (k, b.toValue.under p)] =
            (x.perform (.put k (m.toValue.under p))).filter ∧
          (x.perform (.put k (m.toValue.under p))).filter.toValue.at? (k :: p) = some m.toValue) ∧
      ∀ (x : Filter) (field : String), field ∉ Document.keys x.document →
        x.performAll [.elements field (.finished a), .elements field (.finished b)] =
          (x.perform (.elements field (.finished m))).filter := by
  intro m
  have hm : b.toValue.mergeInto a.toValue = m.toValue := (toValue_perform_merge a b).symm
  refine ⟨rfl, hm, fun x k p hx => ?_, fun x k p hk => ⟨?_, ?_⟩, fun x field hfield => ?_⟩
  · rw [at?_perform_put_under, hx]
    exact congrArg some hm
  · rw [putAll_cons, putAll_cons, perform_put_put hk, Value.mergeInto_under, hm]
    rfl
  · have hchild : x.toValue.child? k = none := (Document.get?_eq_none_iff x.document k).2 hk
    rw [at?_perform_put_under, Value.at?_cons_of_none hchild]
    rfl
  · have hput (f g : Filter) : (f.perform (.elements field (.finished g))).filter =
        (f.perform (.put field (fragment .elemMatch g.toValue))).filter :=
      (perform_elements_of_ok rfl f field).1
    rw [performAll_cons, performAll_cons, hput, hput, hput, perform_put_put hfield,
      Value.fragment_mergeInto_fragment, hm]
    rfl

/-- Two filters with a list and a document in common, at the end of a chain beside which something
else is stored, and as conditions on the elements of a field. -/
theorem merge_at_every_depth_two_keys :
    let a : Filter := ⟨[("tags", .array [.int32 1]), ("size", .document [("$gt", .int32 2)])]⟩
    let b : Filter := ⟨[("size", .document [("$lt", .int32 9)]), ("tags", .array [.int32 3]),
      ("name", .null)]⟩
    let m : Filter := ⟨[("tags", .array [.int32 1, .int32 3]),
      ("size", .document [("$gt", .int32 2), ("$lt", .int32 9)]), ("name", .null)]⟩
    let x : Filter := ⟨[("item", .document [("id", .int32 7), ("part", a.toValue)])]⟩
    x.toValue.at? ["item", "part"] = some a.toValue ∧ "box" ∉ Document.keys x.document ∧
      b.toValue.mergeInto a.toValue = m.toValue ∧
      (x.perform (.put "item" (.document [("part", b.toValue)]))).filter.document =
        [("item", .document [("id", .int32 7), ("part", m.toValue)])] ∧
      (x.perform (.put "item" (b.toValue.under ["part"]))).filter.toValue.at? ["item", "part"] =
        some m.toValue ∧
      x.putAll [("box", a.toValue.under ["part"]), ("box", b.toValue.under ["part"])] =
        (x.perform (.put "box" (m.toValue.under ["part"]))).filter ∧
      x.performAll [.elements "box" (.finished a), .elements "box" (.finished b)] =
        (x.perform (.elements "box" (.finished m))).filter := by
  intro a b m x
  have hat : x.toValue.at? ["item", "part"] = some a.toValue := rfl
  have hbox : "box" ∉ Document.keys x.document := by decide
  have hmerge : (a.perform (.merge b)).filter = m := rfl
  obtain ⟨-, hvalue, hchain, hput, helements⟩ := merge_at_every_depth a b
  rw [hmerge] at hvalue hchain hput helements
  exact ⟨hat, hbox, hvalue, rfl, hchain x "item" ["part"] hat, (hput x "box" ["part"] hbox).1,
    helements x "box" hbox⟩

end Filter
end DocFilter
