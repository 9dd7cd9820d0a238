import DocFilter.Proofs.Calls.Funnel
import DocFilter.Proofs.Merge.Path

/-! Two values that are merged one after the other into a third can change places where they meet
in documents alone. What is left is then the same at every path, but for the order of the keys of
documents at the paths where they meet. -/

namespace DocFilter
namespace Value

/-- A path leads into both values, and not to two documents. -/
def Clash (v w : Value) : Prop :=
  ∃ p x y, v.at? p = some x ∧ w.at? p = some y ∧ ¬ (x.kind = .object ∧ y.kind = .object)

/-- The same at every path, or, at the paths in `loose`, two documents with the same keys. -/
def AgreeUpTo (loose : List String → Prop) (v w : Value) : Prop :=
  ∀ p, v.at? p = w.at? p ∨
    loose p ∧ ∃ d e, v.at? p = some (document d) ∧ w.at? p = some (document e) ∧
      (Document.keys d).Perm (Document.keys e)

theorem Clash.symm {v w : Value} (h : Clash v w) : Clash w v := by
  obtain ⟨p, x, y, hx, hy, hk⟩ := h
  exact ⟨p, y, x, hy, hx, fun h => hk h.symm⟩

theorem AgreeUpTo.refl (loose : List String → Prop) (v : Value) : AgreeUpTo loose v v :=
  fun _ => Or.inl rfl

theorem AgreeUpTo.trans {loose : List String → Prop} {u v w : Value}
    (huv : AgreeUpTo loose u v) (hvw : AgreeUpTo loose v w) : AgreeUpTo loose u w := by
  intro p
  rcases huv p with huv | ⟨hp, d, e, hd, he, hde⟩
  · rw [huv]
    exact hvw p
  · rcases hvw p with hvw | ⟨-, e', f, he', hf, hef⟩
    · exact Or.inr ⟨hp, d, e, hd, hvw ▸ he, hde⟩
    · obtain rfl := document.inj (Option.some.inj (he.symm.trans he'))
      exact Or.inr ⟨hp, d, f, hd, hf, hde.trans hef⟩

theorem AgreeUpTo.mono {loose loose' : List String → Prop} {v w : Value}
    (h : AgreeUpTo loose v w) (hl : ∀ p, loose p → loose' p) : AgreeUpTo loose' v w := by
  intro p
  rcases h p with h | ⟨hp, h⟩
  · exact Or.inl h
  · exact Or.inr ⟨hl p hp, h⟩

theorem at?_append (v : Value) (p q : List String) :
    v.at? (p ++ q) = (v.at? p).bind fun w => w.at? q := by
  induction p generalizing v with
  | nil => rfl
  | cons k p ih =>
    rw [List.cons_append]
    cases hc : v.child? k with
    | none => rw [at?_cons_of_none hc, at?_cons_of_none hc, Option.bind_none]
    | some w => rw [at?_cons_of_some hc, at?_cons_of_some hc, ih]

/-- A value that is in the way of a path that the other value goes on along clashes with it. -/
theorem clash_of_blocks {v w x : Value} {p : List String} (hv : v.Blocks p)
    (hw : w.at? p = some x) : Clash v w := by
  obtain ⟨q, y, ⟨r, rfl⟩, -, hy, hk⟩ := hv
  cases hz : w.at? q with
  | none =>
    rw [at?_append, hz] at hw
    cases hw
  | some z => exact ⟨q, y, z, hy, hz, fun h => hk h.1⟩

end Value

namespace Document

theorem keys_merge_perm {d d' : Document} (e : Document) (he : (keys e).Nodup)
    (h : (keys d).Perm (keys d')) : (keys (merge d e)).Perm (keys (merge d' e)) := by
  rw [keys_merge d e he, keys_merge d' e he]
  have hf : (keys e).filter (· ∉ keys d) = (keys e).filter (· ∉ keys d') := by
    apply List.filter_congr
    intro k _
    simp [h.mem_iff]
  rw [hf]
  exact h.append_right _

theorem keys_merge_merge_perm {b d e : Document} (hb : (keys b).Nodup) (hd : (keys d).Nodup)
    (he : (keys e).Nodup) : (keys (merge (merge b d) e)).Perm (keys (merge (merge b e) d)) := by
  rw [List.perm_ext_iff_of_nodup (nodup_keys_merge (nodup_keys_merge hb hd) he)
    (nodup_keys_merge (nodup_keys_merge hb he) hd)]
  intro k
  rw [mem_keys_merge _ e he, mem_keys_merge b d hd, mem_keys_merge _ d hd, mem_keys_merge b e he]
  exact or_right_comm

end Document

namespace Value

/-- Wherever a document arrives, it is merged into a document: into an empty one where there is
none. -/
theorem exists_base {stored : Option Value} (h : ∀ z, stored = some z → z.Distinct) :
    ∃ b, (Document.keys b).Nodup ∧ ∀ e, (Document.keys e).Nodup →
      (document e).arrive stored = document (Document.merge b e) := by
  have hempty : ∀ e, (Document.keys e).Nodup → document e = document (Document.merge [] e) :=
    fun e he => by rw [Document.merge_empty he]
  cases stored with
  | none => exact ⟨[], List.nodup_nil, hempty⟩
  | some z =>
    by_cases hz : z.kind = .object
    · obtain ⟨d, rfl⟩ := eq_document_of_kind hz
      exact ⟨d, (h _ rfl).keys, fun e _ => mergeInto_document d e⟩
    · refine ⟨[], List.nodup_nil, fun e he => ?_⟩
      rw [arrive, document_mergeInto_of_kind e hz]
      exact hempty e he

/-- Where both are documents they can be merged in either order. -/
theorem arrive_arrive_perm {d e : Document} {stored : Option Value}
    (hs : ∀ z, stored = some z → z.Distinct) (hd : (Document.keys d).Nodup)
    (he : (Document.keys e).Nodup) :
    ∃ f g, (document e).arrive (some ((document d).arrive stored)) = document f ∧
      (document d).arrive (some ((document e).arrive stored)) = document g ∧
      (Document.keys f).Perm (Document.keys g) := by
  obtain ⟨b, hb, hbase⟩ := exists_base hs
  refine ⟨Document.merge (Document.merge b d) e, Document.merge (Document.merge b e) d, ?_, ?_,
    Document.keys_merge_merge_perm hb hd he⟩
  · rw [hbase d hd, arrive, mergeInto_document]
  · rw [hbase e he, arrive, mergeInto_document]

/-- A path on which both values have documents. -/
theorem at?_exchange_of_documents {u w x : Value} (hx : x.Distinct) (hu : u.Distinct)
    (hw : w.Distinct) {p : List String} {d e : Document} (hup : u.at? p = some (document d))
    (hwp : w.at? p = some (document e)) :
    ∃ f g, (w.mergeInto (u.mergeInto x)).at? p = some (document f) ∧
      (u.mergeInto (w.mergeInto x)).at? p = some (document g) ∧
      (Document.keys f).Perm (Document.keys g) := by
  have hstored : ∀ z, x.at? p = some z → z.Distinct := fun _ => hx.at?
  obtain ⟨f, g, hf, hg, hfg⟩ := arrive_arrive_perm hstored (hu.at? hup).keys (hw.at? hwp).keys
  refine ⟨f, g, ?_, ?_, hfg⟩
  · rw [at?_mergeInto_of_some hw _ hwp, at?_mergeInto_of_some hu x hup, hf]
  · rw [at?_mergeInto_of_some hu _ hup, at?_mergeInto_of_some hw x hwp, hg]

/-- A path on which only the second of two values has something to say. -/
theorem at?_exchange_of_none {u w : Value} (hu : u.Distinct) (hw : w.Distinct)
    (h : ¬ Clash u w) (x : Value) {p : List String} {b : Value} (hup : u.at? p = none)
    (hwp : w.at? p = some b) :
    (w.mergeInto (u.mergeInto x)).at? p = (u.mergeInto (w.mergeInto x)).at? p := by
  have hfree : ¬ u.Blocks p := fun hb => h (clash_of_blocks hb hwp)
  rw [at?_mergeInto_of_some hw _ hwp, at?_mergeInto_of_free hu x hup hfree,
    at?_mergeInto_of_free hu _ hup hfree, at?_mergeInto_of_some hw x hwp]

/-- A path on which neither value has anything: what is there is stored already, unless one of the
two is in the way. -/
theorem at?_exchange_of_absent {u w : Value} (hu : u.Distinct) (hw : w.Distinct) (x : Value)
    {p : List String} (hup : u.at? p = none) (hwp : w.at? p = none) :
    (w.mergeInto (u.mergeInto x)).at? p = (u.mergeInto (w.mergeInto x)).at? p := by
  by_cases hub : u.Blocks p <;> by_cases hwb : w.Blocks p
  · rw [at?_mergeInto_of_blocks hw _ hwb, at?_mergeInto_of_blocks hu _ hub]
  · rw [at?_mergeInto_of_free hw _ hwp hwb, at?_mergeInto_of_blocks hu x hub,
      at?_mergeInto_of_blocks hu _ hub]
  · rw [at?_mergeInto_of_blocks hw _ hwb, at?_mergeInto_of_free hu _ hup hub,
      at?_mergeInto_of_blocks hw x hwb]
  · rw [at?_mergeInto_of_free hw _ hwp hwb, at?_mergeInto_of_free hu x hup hub,
      at?_mergeInto_of_free hu _ hup hub, at?_mergeInto_of_free hw x hwp hwb]

/-- Two values that do not clash can be merged in either order. -/
theorem agreeUpTo_exchange {u w x : Value} (hx : x.Distinct) (hu : u.Distinct) (hw : w.Distinct)
    (h : ¬ Clash u w) :
    AgreeUpTo (fun p => (∃ d, u.at? p = some (document d)) ∧ ∃ e, w.at? p = some (document e))
      (w.mergeInto (u.mergeInto x)) (u.mergeInto (w.mergeInto x)) := by
  intro p
  cases hup : u.at? p with
  | some a =>
    cases hwp : w.at? p with
    | some b =>
      -- what does not clash can only be two documents here
      have hk : a.kind = .object ∧ b.kind = .object :=
        not_not.1 fun hk => h ⟨p, a, b, hup, hwp, hk⟩
      obtain ⟨d, rfl⟩ := eq_document_of_kind hk.1
      obtain ⟨e, rfl⟩ := eq_document_of_kind hk.2
      exact Or.inr ⟨⟨⟨d, hup⟩, e, hwp⟩, at?_exchange_of_documents hx hu hw hup hwp⟩
    | none => exact Or.inl (at?_exchange_of_none hw hu (mt Clash.symm h) x hwp hup).symm
  | none =>
    cases hwp : w.at? p with
    | some b => exact Or.inl (at?_exchange_of_none hu hw h x hup hwp)
    | none => exact Or.inl (at?_exchange_of_absent hu hw x hup hwp)

theorem AgreeUpTo.mergeInto {loose : List String → Prop} {x y u : Value}
    (h : AgreeUpTo loose x y) (hu : u.Distinct) :
    AgreeUpTo loose (u.mergeInto x) (u.mergeInto y) := by
  intro p
  cases hup : u.at? p with
  | some a =>
    rw [at?_mergeInto_of_some hu x hup, at?_mergeInto_of_some hu y hup]
    rcases h p with hxy | ⟨hp, d, e, hd, he, hde⟩
    · exact Or.inl (by rw [hxy])
    · rw [hd, he]
      by_cases ha : a.kind = .object
      · obtain ⟨f, rfl⟩ := eq_document_of_kind ha
        refine Or.inr ⟨hp, Document.merge d f, Document.merge e f, ?_, ?_,
          Document.keys_merge_perm f (hu.at? hup).keys hde⟩
        · rw [arrive, mergeInto_document]
        · rw [arrive, mergeInto_document]
      · have hreplace : ∀ c, a.mergeInto (document c) = a := by
          intro c
          apply mergeInto_of_not_sameContainer
          simp [SameContainer, ha]
        left
        rw [arrive, arrive, hreplace, hreplace]
  | none =>
    by_cases hub : u.Blocks p
    · left
      rw [at?_mergeInto_of_blocks hu x hub, at?_mergeInto_of_blocks hu y hub]
    · rw [at?_mergeInto_of_free hu x hup hub, at?_mergeInto_of_free hu y hup hub]
      exact h p

end Value
end DocFilter
