import DocFilter.Proofs.Negation.Reading

/-! Negating a fragment onto a field that holds a fragment already. The negated fragment is merged
into the stored one, so a `$not` that both have is merged as well: what is added then goes under
the stored negation, where it weakens the filter instead of strengthening it. The main statement
says exactly when the result still reads as the conjunction. -/

namespace DocFilter

namespace Tiers

variable {α : Type}

theorem conjoins_of_single {s t : List (List α)} (hs : s ≠ []) (ht : t ≠ [])
    (h : s.length = 1 ∨ t.length = 1) : Conjoins s t := by
  have hs0 := List.length_pos_iff.2 hs
  have ht0 := List.length_pos_iff.2 ht
  refine ⟨fun a b i j ha hb => ?_, fun a i ha => ?_, fun b j hb => ?_, ?_⟩
  · have := ha.lt_length
    have := hb.lt_length
    omega
  · have := ha.lt_length
    omega
  · have := hb.lt_length
    omega
  · omega

end Tiers

namespace Document

theorem loneNot?_eq_some {d : Document} {v : Value} (h : loneNot? d = some v) :
    d = [(Keyword.not.text, v)] := by
  cases d with
  | nil => cases h
  | cons entry rest =>
    cases rest with
    | nil =>
      obtain ⟨key, value⟩ := entry
      by_cases hk : key = Keyword.not.text
      · simp only [loneNot?, hk, if_true, Option.some.injEq] at h
        rw [hk, h]
      · simp [loneNot?, hk] at h
    | cons _ _ => cases h

/-- The negation of a fragment is a fragment over the same atoms that reads as the opposite. -/
theorem exists_negation {f : Document} (hl : Legible f) (hf : (Value.document f).Distinct) :
    ∃ n, (Value.document f).negation.2 = .document n ∧ Legible n ∧ (Value.document n).Distinct ∧
      (∀ a ∈ (Value.document n).tiers.flatten, a ∈ (Value.document f).tiers.flatten) ∧
      ∀ truth, (Value.document n).reads truth = !(Value.document f).reads truth := by
  have hfrag := hl.isOperatorFragment
  cases hlone : loneNot? f with
  | some v =>
    have hneg : (Value.document f).negation.2 = v := by simp [Value.negation, hfrag, hlone]
    obtain rfl := loneNot?_eq_some hlone
    obtain ⟨_, _, hkind, hbeneath⟩ := hl
    have hn := negated?_not v
    obtain ⟨n, rfl⟩ := Value.eq_document_of_kind (hkind v hn)
    refine ⟨n, hneg, hbeneath n hn, hf.get? hn, fun a ha => mem_tiers_of_negated hn ha, ?_⟩
    intro truth
    simp [Value.reads, readsEntries]
  | none =>
    have hneg : (Value.document f).negation.2 = fragment .not (.document f) := by
      simp [Value.negation, hfrag, hlone]
    refine ⟨[(Keyword.not.text, .document f)], hneg, hl.not, ?_, ?_, ?_⟩
    · rw [Value.distinct_document]
      simpa using hf
    · intro a ha
      rw [tiers_of_some (negated?_not _)] at ha
      simpa [atoms] using ha
    · intro truth
      simp [Value.reads, readsEntries]

end Document

namespace Filter

theorem get?_perform_negate (x : Filter) {field : String} {v w : Value}
    (h : Document.get? x.document field = some v) :
    Document.get? (x.perform (.negate ⟨[(field, w)]⟩)).filter.document field =
      some (w.negation.2.mergeInto v) := by
  change Document.get? (Document.add x.document field w.negation.2) field = _
  rw [Document.get?_add, if_pos rfl, h]
  rfl

/-- The negation of `f`, added to a field that holds `g`, leaves a fragment whose tiers are those of
the two laid over each other. Only where these conjoin does it read as `g` and not `f`, which is so
whenever one of the two fragments that are merged has no `$not`. -/
theorem negate_reads_as_conjunction_iff (x : Filter) (field : String) (g f : Document)
    (hx : x.toValue.Distinct) (hf : (Value.document f).Distinct)
    (hg : Document.get? x.document field = some (.document g))
    (lg : Document.Legible g) (lf : Document.Legible f) (apart : Document.Apart g f) :
    ∃ n m, (Value.document f).negation.2 = .document n ∧
      Document.get? (x.perform (.negate ⟨[(field, .document f)]⟩)).filter.document field =
        some (.document m) ∧
      Document.isOperatorFragment m = true ∧
      (∀ truth, (Value.document m).reads truth =
        Tiers.holds truth (Tiers.overlay (Value.document g).tiers (Value.document n).tiers)) ∧
      ((∀ truth, (Value.document m).reads truth =
          ((Value.document g).reads truth && !(Value.document f).reads truth)) ↔
        Tiers.Conjoins (Value.document g).tiers (Value.document n).tiers) ∧
      (Document.negated? g = none ∨ Document.negated? n = none →
        Tiers.Conjoins (Value.document g).tiers (Value.document n).tiers) := by
  have hgd : (Value.document g).Distinct := Value.Distinct.get? hx hg
  obtain ⟨n, hn, ln, hnd, hsub, hread⟩ := Document.exists_negation lf hf
  have hgn : Document.Apart g n := fun a ha b hb => apart a ha b (hsub b hb)
  have hdisjoint : (Value.document g).tiers.flatten.Disjoint (Value.document n).tiers.flatten :=
    fun a ha hb => hgn a ha a hb rfl
  have hm : (Value.document (Document.merge g n)).Distinct := by
    rw [← Value.mergeInto_document]
    exact hgd.mergeInto hnd
  have lm : Document.Legible (Document.merge g n) := lg.merge ln hnd
  have hoverlay : ∀ truth, (Value.document (Document.merge g n)).reads truth =
      Tiers.holds truth (Tiers.overlay (Value.document g).tiers (Value.document n).tiers) := by
    intro truth
    rw [Document.reads_eq_holds lm hm, Document.tiers_merge lg ln hnd hgn]
  refine ⟨n, Document.merge g n, hn, ?_, lm.isOperatorFragment, hoverlay, ?_, ?_⟩
  · rw [get?_perform_negate x hg, hn, Value.mergeInto_document]
  · rw [← Tiers.holds_overlay_iff_conjoins hdisjoint]
    simp only [hoverlay, ← hread, Document.reads_eq_holds lg hgd, Document.reads_eq_holds ln hnd]
  · rintro (h | h)
    · apply Tiers.conjoins_of_single (by simp [Value.tiers]) (by simp [Value.tiers])
      rw [Document.tiers_of_none h]
      exact Or.inl rfl
    · apply Tiers.conjoins_of_single (by simp [Value.tiers]) (by simp [Value.tiers])
      rw [Document.tiers_of_none h]
      exact Or.inr rfl

/-- The negation of a second comparison of the same field goes under the `$not` of the first one:
the two are no longer denied each, but only together. -/
theorem negate_reads_as_conjunction_iff_same_field :
    let g : Document := [("$not", .document [("$gt", .int32 5)])]
    let f : Document := [("$lt", .int32 3)]
    let x : Filter := ⟨[("age", .document g)]⟩
    x.toValue.Distinct ∧ (Value.document f).Distinct ∧
      Document.get? x.document "age" = some (.document g) ∧
      Document.Legible g ∧ Document.Legible f ∧ Document.Apart g f ∧
      ∃ m, Document.get? (x.perform (.negate ⟨[("age", .document f)]⟩)).filter.document "age" =
          some (.document m) ∧
        ∃ truth, (Value.document m).reads truth ≠
          ((Value.document g).reads truth && !(Value.document f).reads truth) := by
  intro g f x
  have hn (n : Int32) : (Value.int32 n).Distinct := Value.distinct_of_leaf rfl rfl
  have hx : x.toValue.Distinct := by simp [x, g, toValue, hn]
  have hf : (Value.document f).Distinct := by simp [f, hn]
  have lg : Document.Legible g := (Document.legible_of_none (by decide) rfl).not
  have lf : Document.Legible f := Document.legible_of_none (by decide) rfl
  have apart : Document.Apart g f := by
    unfold Document.Apart
    decide
  refine ⟨hx, hf, rfl, lg, lf, apart, ?_⟩
  obtain ⟨n, m, hneg, hm, -, -, hiff, -⟩ :=
    negate_reads_as_conjunction_iff x "age" g f hx hf rfl lg lf apart
  refine ⟨m, hm, ?_⟩
  by_contra hall
  have hc := hiff.1 fun truth => by_contra fun hne => hall ⟨truth, hne⟩
  obtain rfl : [(Keyword.not.text, Value.document f)] = n := Value.document.inj hneg
  have hfirst : Tiers.FirstAt ("$gt", Value.int32 5) (Value.document g).tiers 1 :=
    .later (by simp [g, Keyword.text]) (.here (by simp [Keyword.text]))
  exact absurd (hc.left _ 1 hfirst rfl) (by decide)

/-- A field that holds a double negation, and a comparison that is negated onto it. The stored value
does not read as the conjunction, although there is a fragment that does. -/
theorem negate_onto_double_negation :
    let g : Document := [("$not", .document [("$not", .document [("$gt", .int32 5)])])]
    let f : Document := [("$lt", .int32 3)]
    let x := (empty.perform (.put "age" (.document g))).filter
    let y := (x.perform (.negate ⟨[("age", .document f)]⟩)).filter
    Document.get? x.document "age" = some (.document g) ∧
      Document.Legible g ∧ Document.Legible f ∧ Document.Apart g f ∧
      (∃ m truth, Document.get? y.document "age" = some (.document m) ∧
        (Value.document m).reads truth ≠
          ((Value.document g).reads truth && !(Value.document f).reads truth)) ∧
      ∀ truth, (Value.document [("$gt", .int32 5), ("$not", .document f)]).reads truth =
        ((Value.document g).reads truth && !(Value.document f).reads truth) := by
  intro g f x y
  have lg : Document.Legible g := (Document.legible_of_none (by decide) rfl).not.not
  have lf : Document.Legible f := Document.legible_of_none (by decide) rfl
  have apart : Document.Apart g f := by
    unfold Document.Apart
    decide
  refine ⟨rfl, lg, lf, apart, ⟨_, fun _ => true, rfl, by decide⟩, ?_⟩
  intro truth
  simp [g, f, Value.reads, readsEntries, Keyword.text]

end Filter
end DocFilter
