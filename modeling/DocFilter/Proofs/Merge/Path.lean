import DocFilter.Proofs.Merge.Rule

/-! What a merge leaves at every path of keys. A path leads through documents alone. Where the
incoming document has a value, that value meets the stored one; where it has none, the stored value
stays, unless the incoming document holds something that is not a document on the way. -/

namespace DocFilter
namespace Value

def child? : Value → String → Option Value
  | .document d, k => Document.get? d k
  | _, _ => none

def at? : Value → List String → Option Value
  | v, [] => some v
  | v, k :: p =>
    match v.child? k with
    | some w => w.at? p
    | none => none

/-- A shorter path leads to a value that is not a document, so that `p` leads to nothing. -/
def Blocks (v : Value) (p : List String) : Prop :=
  ∃ q w, q <+: p ∧ q ≠ p ∧ v.at? q = some w ∧ w.kind ≠ .object

theorem at?_cons_of_some {v w : Value} {k : String} (h : v.child? k = some w) (p : List String) :
    v.at? (k :: p) = w.at? p := by
  rw [at?, h]

theorem at?_cons_of_none {v : Value} {k : String} (h : v.child? k = none) (p : List String) :
    v.at? (k :: p) = none := by
  rw [at?, h]

theorem child?_of_kind {v : Value} (h : v.kind ≠ .object) (k : String) : v.child? k = none := by
  cases v with
  | document d => exact absurd rfl h
  | _ => rfl

theorem Distinct.child? {v w : Value} (hv : v.Distinct) {k : String} (h : v.child? k = some w) :
    w.Distinct := by
  cases v with
  | document d => exact hv.get? h
  | _ => cases h

theorem Distinct.at? {v w : Value} (hv : v.Distinct) {p : List String} (h : v.at? p = some w) :
    w.Distinct := by
  induction p generalizing v with
  | nil =>
    obtain rfl := Option.some.inj h
    exact hv
  | cons k p ih =>
    cases hc : v.child? k with
    | none =>
      rw [at?_cons_of_none hc] at h
      cases h
    | some u =>
      rw [at?_cons_of_some hc] at h
      exact ih (hv.child? hc) h

theorem child?_mergeInto_of_some {y w : Value} (hy : y.Distinct) (x : Value) {k : String}
    (h : y.child? k = some w) : (y.mergeInto x).child? k = some (w.arrive (x.child? k)) := by
  cases y with
  | document e =>
    by_cases hx : x.kind = .object
    · obtain ⟨d, rfl⟩ := eq_document_of_kind hx
      rw [mergeInto_document]
      exact Document.get?_merge_of_some d hy.keys h
    · rw [document_mergeInto_of_kind e hx, child?_of_kind hx, h]
      rfl
  | _ => cases h

theorem child?_mergeInto_of_none {y : Value} (hy : y.Distinct) (x : Value) {k : String}
    (hk : y.kind = .object) (h : y.child? k = none) : (y.mergeInto x).child? k = x.child? k := by
  obtain ⟨e, rfl⟩ := eq_document_of_kind hk
  by_cases hx : x.kind = .object
  · obtain ⟨d, rfl⟩ := eq_document_of_kind hx
    rw [mergeInto_document]
    exact Document.get?_merge_of_none d hy.keys h
  · rw [document_mergeInto_of_kind e hx, child?_of_kind hx, h]

theorem child?_mergeInto_of_kind {y : Value} (x : Value) (hk : y.kind ≠ .object) (k : String) :
    (y.mergeInto x).child? k = none := by
  apply child?_of_kind
  rwa [kind_mergeInto]

theorem not_blocks_nil (v : Value) : ¬ v.Blocks [] := by
  rintro ⟨q, w, hq, hne, -⟩
  exact hne (List.prefix_nil.1 hq)

theorem blocks_cons (v : Value) (k : String) (p : List String) :
    v.Blocks (k :: p) ↔ v.kind ≠ .object ∨ ∃ w, v.child? k = some w ∧ w.Blocks p := by
  constructor
  · rintro ⟨q, w, hq, hne, hat, hw⟩
    cases q with
    | nil =>
      obtain rfl := Option.some.inj hat
      exact Or.inl hw
    | cons j q =>
      obtain ⟨rfl, hqp⟩ := List.cons_prefix_cons.1 hq
      cases hc : v.child? j with
      | none =>
        rw [at?_cons_of_none hc] at hat
        cases hat
      | some u =>
        rw [at?_cons_of_some hc] at hat
        refine Or.inr ⟨u, rfl, q, w, hqp, ?_, hat, hw⟩
        rintro rfl
        exact hne rfl
  · rintro (hv | ⟨u, hc, q, w, hq, hne, hat, hw⟩)
    · exact ⟨[], v, List.nil_prefix, by simp, rfl, hv⟩
    · refine ⟨k :: q, w, List.cons_prefix_cons.2 ⟨rfl, hq⟩, ?_, ?_, hw⟩
      · intro h
        exact hne (List.cons.inj h).2
      · rw [at?_cons_of_some hc, hat]

theorem at?_of_blocks {v : Value} {p : List String} (h : v.Blocks p) : v.at? p = none := by
  induction p generalizing v with
  | nil => exact absurd h (not_blocks_nil v)
  | cons k p ih =>
    rcases (blocks_cons v k p).1 h with hv | ⟨w, hc, hw⟩
    · exact at?_cons_of_none (child?_of_kind hv k) p
    · rw [at?_cons_of_some hc, ih hw]

/-- Where a value comes in, it meets what is stored there. -/
theorem at?_mergeInto_of_some {y : Value} (hy : y.Distinct) (x : Value) {p : List String}
    {w : Value} (h : y.at? p = some w) : (y.mergeInto x).at? p = some (w.arrive (x.at? p)) := by
  induction p generalizing x y with
  | nil =>
    obtain rfl := Option.some.inj h
    rfl
  | cons k p ih =>
    cases hc : y.child? k with
    | none =>
      rw [at?_cons_of_none hc] at h
      cases h
    | some v =>
      rw [at?_cons_of_some hc] at h
      rw [at?_cons_of_some (child?_mergeInto_of_some hy x hc)]
      cases hx : x.child? k with
      | none =>
        rw [at?_cons_of_none hx]
        exact h
      | some u =>
        rw [at?_cons_of_some hx]
        exact ih (hy.child? hc) u h

/-- Below a value that is not a document nothing of what was stored is left. -/
theorem at?_mergeInto_of_blocks {y : Value} (hy : y.Distinct) (x : Value) {p : List String}
    (h : y.Blocks p) : (y.mergeInto x).at? p = none := by
  induction p generalizing x y with
  | nil => exact absurd h (not_blocks_nil y)
  | cons k p ih =>
    rcases (blocks_cons y k p).1 h with hk | ⟨w, hc, hw⟩
    · exact at?_cons_of_none (child?_mergeInto_of_kind x hk k) p
    · rw [at?_cons_of_some (child?_mergeInto_of_some hy x hc)]
      cases x.child? k with
      | none => exact at?_of_blocks hw
      | some u => exact ih (hy.child? hc) u hw

/-- Where nothing comes in and nothing is in the way, the stored value stays. -/
theorem at?_mergeInto_of_free {y : Value} (hy : y.Distinct) (x : Value) {p : List String}
    (hn : y.at? p = none) (h : ¬ y.Blocks p) : (y.mergeInto x).at? p = x.at? p := by
  induction p generalizing x y with
  | nil => cases hn
  | cons k p ih =>
    rw [blocks_cons, not_or, not_not] at h
    obtain ⟨hk, hw⟩ := h
    cases hc : y.child? k with
    | none => rw [at?, at?, child?_mergeInto_of_none hy x hk hc]
    | some v =>
      rw [at?_cons_of_some hc] at hn
      have hv : ¬ v.Blocks p := fun hb => hw ⟨v, hc, hb⟩
      rw [at?_cons_of_some (child?_mergeInto_of_some hy x hc)]
      cases hx : x.child? k with
      | none =>
        rw [at?_cons_of_none hx]
        exact hn
      | some u =>
        rw [at?_cons_of_some hx]
        exact ih (hy.child? hc) u hn hv

/-- The value at the end of a chain of keys, each of them the only one of its document. -/
def under (v : Value) (p : List String) : Value := p.foldr (fun k w => document [(k, w)]) v

theorem under_cons (v : Value) (k : String) (p : List String) :
    v.under (k :: p) = document [(k, v.under p)] := rfl

theorem at?_under (v : Value) (p : List String) : (v.under p).at? p = some v := by
  induction p with
  | nil => rfl
  | cons k p ih =>
    have hchild : (v.under (k :: p)).child? k = some (v.under p) := by
      simp [under_cons, child?, Document.get?]
    rw [at?_cons_of_some hchild, ih]

/-- Chains of the same keys merge into one, at the end of which the values meet. -/
theorem mergeInto_under (v w : Value) (p : List String) :
    (w.under p).mergeInto (v.under p) = (w.mergeInto v).under p := by
  induction p with
  | nil => rfl
  | cons k p ih => rw [under_cons, under_cons, under_cons, mergeInto_singleton, ih]

theorem child?_mergeInto_under (w x : Value) (k : String) (p : List String) :
    ((w.under (k :: p)).mergeInto x).child? k = some ((w.under p).arrive (x.child? k)) := by
  have hkeys : (Document.keys [(k, w.under p)]).Nodup := List.nodup_singleton k
  have hincoming : Document.get? [(k, w.under p)] k = some (w.under p) := by simp [Document.get?]
  by_cases hx : x.kind = .object
  · obtain ⟨d, rfl⟩ := eq_document_of_kind hx
    rw [under_cons, mergeInto_document]
    exact Document.get?_merge_of_some d hkeys hincoming
  · rw [under_cons, document_mergeInto_of_kind _ hx, child?_of_kind hx]
    exact hincoming

/-- A value at the end of a chain meets what is stored there, whatever stands beside the chain. -/
theorem at?_mergeInto_under (w x : Value) (p : List String) :
    ((w.under p).mergeInto x).at? p = some (w.arrive (x.at? p)) := by
  induction p generalizing x with
  | nil => rfl
  | cons k p ih =>
    rw [at?_cons_of_some (child?_mergeInto_under w x k p)]
    cases hx : x.child? k with
    | none =>
      rw [at?_cons_of_none hx]
      exact at?_under w p
    | some u =>
      rw [at?_cons_of_some hx]
      exact ih u

end Value

namespace Filter

/-- A filter is a document, so nothing is in the way before the first key of a path. -/
theorem blocks_toValue_iff (f : Filter) (p : List String) :
    f.toValue.Blocks p ↔
      ∃ q, q ≠ [] ∧ q <+: p ∧ q ≠ p ∧ ∃ w, f.toValue.at? q = some w ∧ w.kind ≠ .object := by
  constructor
  · rintro ⟨q, w, hq, hne, hat, hw⟩
    refine ⟨q, ?_, hq, hne, w, hat, hw⟩
    rintro rfl
    obtain rfl := Option.some.inj hat
    exact hw rfl
  · rintro ⟨q, -, hq, hne, w, hat, hw⟩
    exact ⟨q, w, hq, hne, hat, hw⟩

/-- The whole merge, path by path: the values, the rule for two values that meet, and the order of
the keys of every document that comes from two. -/
theorem merge_at_every_path (a b : Filter) (hb : b.toValue.Distinct) :
    let m := (a.perform (.merge b)).filter
    (∀ p x y, a.toValue.at? p = some x → b.toValue.at? p = some y →
      m.toValue.at? p = some (y.mergeInto x)) ∧
    (∀ p y, a.toValue.at? p = none → b.toValue.at? p = some y → m.toValue.at? p = some y) ∧
    (∀ p, b.toValue.at? p = none →
      (∃ q, q ≠ [] ∧ q <+: p ∧ q ≠ p ∧ ∃ w, b.toValue.at? q = some w ∧ w.kind ≠ .object) →
      m.toValue.at? p = none) ∧
    (∀ p, b.toValue.at? p = none →
      ¬ (∃ q, q ≠ [] ∧ q <+: p ∧ q ≠ p ∧ ∃ w, b.toValue.at? q = some w ∧ w.kind ≠ .object) →
      m.toValue.at? p = a.toValue.at? p) ∧
    (∀ d e, (Value.document e).mergeInto (.document d) =
      ((Filter.mk d).perform (.merge ⟨e⟩)).filter.toValue) ∧
    (∀ xs ys, (Value.array ys).mergeInto (.array xs) = .array (xs ++ ys)) ∧
    (∀ x y, ¬ SameContainer x y → y.mergeInto x = y) ∧
    Document.keys m.document =
      Document.keys a.document ++
        (Document.keys b.document).filter (· ∉ Document.keys a.document) ∧
    ∀ p d e, a.toValue.at? p = some (.document d) → b.toValue.at? p = some (.document e) →
      ∃ r, m.toValue.at? p = some (.document r) ∧
        Document.keys r = Document.keys d ++ (Document.keys e).filter (· ∉ Document.keys d) := by
  intro m
  have hm : m.toValue = b.toValue.mergeInto a.toValue := toValue_perform_merge a b
  have meet : ∀ p x y, a.toValue.at? p = some x → b.toValue.at? p = some y →
      m.toValue.at? p = some (y.mergeInto x) := by
    intro p x y hx hy
    rw [hm, Value.at?_mergeInto_of_some hb a.toValue hy, hx]
    rfl
  refine ⟨meet, ?_, ?_, ?_, ?_, Value.mergeInto_array, ?_, ?_, ?_⟩
  · intro p y hx hy
    rw [hm, Value.at?_mergeInto_of_some hb a.toValue hy, hx]
    rfl
  · intro p _ hblocked
    rw [hm]
    exact Value.at?_mergeInto_of_blocks hb a.toValue ((blocks_toValue_iff b p).2 hblocked)
  · intro p hy hfree
    rw [hm]
    exact Value.at?_mergeInto_of_free hb a.toValue hy (mt (blocks_toValue_iff b p).1 hfree)
  · intro d e
    exact (toValue_perform_merge ⟨d⟩ ⟨e⟩).symm
  · intro x y h
    exact Value.mergeInto_of_not_sameContainer h
  · rw [document_perform_merge]
    exact Document.keys_merge _ _ hb.keys
  · intro p d e hd he
    refine ⟨Document.merge d e, ?_, Document.keys_merge d e (hb.at? he).keys⟩
    rw [meet p _ _ hd he, Value.mergeInto_document]

/-- A document meets a document and arrays meet below it, while a number gives way to a document:
the hypothesis of `merge_at_every_path` and some of its conclusions there. -/
theorem merge_at_every_path_nested :
    let a : Filter := ⟨[("x", .document [("y", .int32 1), ("z", .array [.int32 1])]),
      ("w", .int32 2)]⟩
    let b : Filter := ⟨[("w", .document [("y", .int32 3)]), ("v", .null),
      ("x", .document [("z", .array [.int32 2]), ("u", .document [])])]⟩
    let m := (a.perform (.merge b)).filter
    b.toValue.Distinct ∧
      m.toValue.at? ["x", "z"] = some (.array [.int32 1, .int32 2]) ∧
      m.toValue.at? ["x", "y"] = some (.int32 1) ∧
      m.toValue.at? ["w", "y"] = some (.int32 3) ∧
      Document.keys m.document = ["x", "w", "v"] := by
  intro a b m
  have hb : b.toValue.Distinct := by
    have hn (n : Int32) : (Value.int32 n).Distinct := Value.distinct_of_leaf rfl rfl
    have h0 : Value.null.Distinct := Value.distinct_of_leaf rfl rfl
    simp [b, toValue, hn, h0]
  obtain ⟨meet, arrive, -, stay, -, join, -, order, -⟩ := merge_at_every_path a b hb
  refine ⟨hb, ?_, ?_, arrive ["w", "y"] _ rfl rfl, order⟩
  · rw [meet ["x", "z"] _ _ rfl rfl, join]
    rfl
  · rw [stay ["x", "y"] rfl]
    · rfl
    · rw [← blocks_toValue_iff]
      simp [Value.blocks_cons, Value.not_blocks_nil, Value.child?, toValue, b, Document.get?]

end Filter
end DocFilter
