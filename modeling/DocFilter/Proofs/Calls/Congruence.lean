import DocFilter.Proofs.Calls.Keys
import DocFilter.Proofs.Document.Equality
import DocFilter.Proofs.Negation.Fieldwise

/-! Equality of filters under calls. The same call with equal arguments is refused on both of two
equal filters or on neither, and it leaves equal filters. So do runs of calls. The order of keys may
differ between the two sides, in the filters and in the arguments, but neither side holds a document
with a repeated key. -/

namespace DocFilter

namespace Value

@[simp] theorem alike_double_iff (x y : Double) :
    (double x).Alike (double y) ↔ x.equal y = true := by
  rw [Alike, equal]

@[simp] theorem alike_string_iff (s t : String) : (string s).Alike (string t) ↔ s = t := by
  rw [Alike, equal, beq_iff_eq]

@[simp] theorem alike_bool_iff (a b : Bool) : (bool a).Alike (bool b) ↔ a = b := by
  rw [Alike, equal, beq_iff_eq]

@[simp] theorem alike_int32_iff (m n : Int32) : (int32 m).Alike (int32 n) ↔ m = n := by
  rw [Alike, equal, beq_iff_eq]

@[simp] theorem alike_int64_iff (m n : Int64) : (int64 m).Alike (int64 n) ↔ m = n := by
  rw [Alike, equal, beq_iff_eq]

@[simp] theorem alike_null : null.Alike null := by
  rw [Alike, equal]

theorem Distinct.mapNegation {d : Document} (hd : (document d).Distinct) :
    (document (Document.mapValues (fun v => v.negation.2) d)).Distinct := by
  refine distinct_document_of_get? ?_ ?_
  · rw [Document.keys_mapValues]
    exact hd.keys
  · intro k v hv
    rw [Document.get?_mapValues, Option.map_eq_some_iff] at hv
    obtain ⟨w, hw, rfl⟩ := hv
    exact (hd.get? hw).negation

theorem Alike.mapNegation {d e : Document} (h : (document d).Alike (document e))
    (hd : (document d).Distinct) (he : (document e).Distinct) :
    (document (Document.mapValues (fun v => v.negation.2) d)).Alike
      (document (Document.mapValues (fun v => v.negation.2) e)) := by
  have hget := (alike_iff_get? hd.keys he.keys).1 h
  rw [alike_iff_get? hd.mapNegation.keys he.mapNegation.keys]
  intro k
  rw [Document.get?_mapValues, Document.get?_mapValues]
  cases hv : Document.get? d k with
  | none =>
    rw [(rel_none_iff (hget k)).1 hv]
    exact .none
  | some v =>
    obtain ⟨w, hw, hvw⟩ := exists_of_rel (hget k) hv
    rw [hw]
    exact .some (hvw.negation (hd.get? hv))

end Value

section Geometry

theorem pairwiseEqual_iff {α : Type} (same : α → α → Bool) (xs ys : List α) :
    pairwiseEqual same xs ys = true ↔ List.Forall₂ (fun x y => same x y = true) xs ys := by
  induction xs generalizing ys with
  | nil => cases ys <;> simp [pairwiseEqual]
  | cons x xs ih =>
    cases ys with
    | nil => simp [pairwiseEqual]
    | cons y ys => simp [pairwiseEqual, ih]

@[simp] theorem Point.alike_position_iff (p q : Point) :
    p.position.Alike q.position ↔ p.equal q = true := by
  simp [position, Value.alike_array_iff, equal]

@[simp] theorem alike_positions_iff (ps qs : List Point) :
    (positions ps).Alike (positions qs) ↔ pairwiseEqual Point.equal ps qs = true := by
  simp [positions, Value.alike_array_iff, pairwiseEqual_iff]

@[simp] theorem alike_rings_iff (rs ss : List (List Point)) :
    (Value.array (rs.map positions)).Alike (.array (ss.map positions)) ↔
      pairwiseEqual (pairwiseEqual Point.equal) rs ss = true := by
  simp [Value.alike_array_iff, pairwiseEqual_iff]

theorem Shape.equal_iff (s t : Shape) :
    s.equal t = true ↔ s.typeName = t.typeName ∧ s.coordinates.Alike t.coordinates := by
  cases s with
  | point p =>
    cases t with
    | point q => simp [equal, typeName, coordinates]
    | _ => simp [equal, typeName]
  | line ps =>
    cases t with
    | line qs => simp [equal, typeName, coordinates]
    | _ => simp [equal, typeName]
  | polygon rs =>
    cases t with
    | polygon ss => simp [equal, typeName, coordinates]
    | _ => simp [equal, typeName]

theorem Shape.alike_toDocument_iff (s t : Shape) :
    (Value.document s.toDocument).Alike (.document t.toDocument) ↔ s.equal t = true := by
  rw [equal_iff, Value.alike_document_iff]
  simp [toDocument, Document.get?]

def Region.equal : Region → Region → Bool
  | .shape s, .shape t => s.equal t
  | .circle p x, .circle q y | .sphericalCircle p x, .sphericalCircle q y => p.equal q && x.equal y
  | .box p q, .box p' q' => p.equal p' && q.equal q'
  | .polygon ps, .polygon qs => pairwiseEqual Point.equal ps qs
  | _, _ => false

theorem Region.alike_fragment {r s : Region} (h : r.equal s = true) :
    r.fragment.Alike s.fragment := by
  cases r with
  | shape r =>
    cases s with
    | shape s => exact (Value.alike_fragment_iff _ _ _).2 ((Shape.alike_toDocument_iff r s).2 h)
    | _ => cases h
  | circle p x =>
    cases s with
    | circle q y =>
      simpa [Region.fragment, Value.alike_fragment_iff, Value.alike_array_iff, equal] using h
    | _ => cases h
  | sphericalCircle p x =>
    cases s with
    | sphericalCircle q y =>
      simpa [Region.fragment, Value.alike_fragment_iff, Value.alike_array_iff, equal] using h
    | _ => cases h
  | box p q =>
    cases s with
    | box p' q' =>
      simpa [Region.fragment, Value.alike_fragment_iff, Value.alike_array_iff, equal] using h
    | _ => cases h
  | polygon ps =>
    cases s with
    | polygon qs =>
      simpa [Region.fragment, Value.alike_fragment_iff, equal] using h
    | _ => cases h

/-- Only the sign of a zero can differ between the bits of equal numbers. -/
theorem Double.isZero_eq {x y : Double} (h : x.equal y = true) : x.isZero = y.isZero := by
  simp only [equal, Bool.and_eq_true, Bool.or_eq_true, beq_iff_eq] at h
  rcases h.2 with hbits | ⟨hx, hy⟩
  · rw [isZero, isZero, hbits]
  · rw [hx, hy]

theorem Distance.equalBound_iff (a b : Option Double) :
    equalBound a b = true ↔ Option.Rel (fun x y => x.equal y = true) a b := by
  cases a <;> cases b <;> simp [equalBound]

theorem Distance.equalBound_nonZero {a b : Option Double} (h : equalBound a b = true) :
    equalBound (nonZero a) (nonZero b) = true := by
  rw [equalBound_iff] at h
  cases h with
  | none => rfl
  | @some x y hxy =>
    simp only [nonZero, Option.filter, Double.isZero_eq hxy]
    split_ifs
    · exact hxy
    · rfl

theorem Distance.equalBound_bounds {d e : Distance} (h : d.equal e = true) :
    equalBound d.bounds.1 e.bounds.1 = true ∧ equalBound d.bounds.2 e.bounds.2 = true := by
  cases d with
  | unbounded =>
    cases e with
    | unbounded => exact ⟨rfl, rfl⟩
    | _ => cases h
  | max x =>
    cases e with
    | max y => exact ⟨rfl, equalBound_nonZero (a := some x) (b := some y) h⟩
    | _ => cases h
  | range a b =>
    cases e with
    | range a' b' =>
      obtain ⟨ha, hb⟩ := Bool.and_eq_true_iff.1 h
      exact ⟨equalBound_nonZero ha, equalBound_nonZero hb⟩
    | _ => cases h

theorem alike_nearFragment (spherical : Bool) {p q : Point} {d e : Distance}
    (hp : p.equal q = true) (hd : d.equal e = true) :
    (nearFragment spherical p d).Alike (nearFragment spherical q e) := by
  have hshape : (Value.document (Shape.point p).toDocument).Alike
      (.document (Shape.point q).toDocument) :=
    (Shape.alike_toDocument_iff (.point p) (.point q)).2 hp
  obtain ⟨hleast, hgreatest⟩ := Distance.equalBound_bounds hd
  rw [Distance.equalBound_iff] at hleast hgreatest
  have hdistinct := (Value.distinct_fragment _ _).1 (distinct_nearFragment spherical q e)
  rw [nearFragment, nearFragment, Value.alike_fragment_iff]
  refine Value.alike_of_entries hdistinct.keys ?_
  generalize d.bounds = b at hleast hgreatest ⊢
  generalize e.bounds = b' at hleast hgreatest ⊢
  obtain ⟨least, greatest⟩ := b
  obtain ⟨least', greatest'⟩ := b'
  refine .cons ⟨rfl, hshape⟩ (List.rel_append ?_ ?_)
  · cases hleast with
    | none => exact .nil
    | some hxy => exact .cons ⟨rfl, (Value.alike_double_iff _ _).2 hxy⟩ .nil
  · cases hgreatest with
    | none => exact .nil
    | some hxy => exact .cons ⟨rfl, (Value.alike_double_iff _ _).2 hxy⟩ .nil

end Geometry

theorem Filter.equal_iff (f g : Filter) : f.equal g = true ↔ f.toValue.Alike g.toValue := by
  rw [Value.Alike, toValue, toValue, Value.equal]
  rfl

theorem Comparison.alike_toValue {a b : Comparison} (h : a.equal b = true) :
    a.toValue.Alike b.toValue := by
  cases a with
  | relation r v =>
    cases b with
    | relation s w =>
      obtain ⟨hr, hv⟩ := Bool.and_eq_true_iff.1 h
      obtain rfl := eq_of_beq hr
      exact (Value.alike_fragment_iff _ v w).2 hv
    | _ => cases h
  | membership m vs =>
    cases b with
    | membership n ws =>
      obtain ⟨hm, hvs⟩ := Bool.and_eq_true_iff.1 h
      obtain rfl := eq_of_beq hm
      refine (Value.alike_fragment_iff _ (.array vs) (.array ws)).2 ?_
      rwa [Value.alike_array_iff, ← Value.equalItems_iff]
    | _ => cases h

/-- Conditions of one form with equal arguments. A deferred one is as good as the filter that it
builds from an empty one. -/
inductive ElementCondition.Alike : ElementCondition → ElementCondition → Prop where
  | finished {f g : Filter} (h : f.equal g = true) : Alike (.finished f) (.finished g)
  | deferred {build build' : Filter → Filter} (h : (build .empty).equal (build' .empty) = true) :
      Alike (.deferred build) (.deferred build')
  | raw {v w : Value} (h : v.Alike w) : Alike (.raw v) (.raw w)

inductive Call.Alike : Call → Call → Prop where
  | put (field : String) {v w : Value} (h : v.Alike w) : Alike (.put field v) (.put field w)
  | compare (field : String) {a b : Comparison} (h : a.equal b = true) :
      Alike (.compare field a) (.compare field b)
  | present (field : String) (wanted : Bool) : Alike (.present field wanted) (.present field wanted)
  | hasType (field : String) (tag : Int32) : Alike (.hasType field tag) (.hasType field tag)
  | isArray (field : String) : Alike (.isArray field) (.isArray field)
  | script (condition : String) : Alike (.script condition) (.script condition)
  | like (field pattern : String) (insensitive : Bool) :
      Alike (.like field pattern insensitive) (.like field pattern insensitive)
  | all (field : String) {vs ws : List Value} (h : List.Forall₂ Value.Alike vs ws) :
      Alike (.all field vs) (.all field ws)
  | noneOf (field : String) {vs ws : List Value} (h : List.Forall₂ Value.Alike vs ws) :
      Alike (.noneOf field vs) (.noneOf field ws)
  | size (field : String) (length : Int64) : Alike (.size field length) (.size field length)
  | elements (field : String) {a b : ElementCondition} (h : a.Alike b) :
      Alike (.elements field a) (.elements field b)
  | noElements (field : String) {a b : ElementCondition} (h : a.Alike b) :
      Alike (.noElements field a) (.noElements field b)
  | vacant (field : String) : Alike (.vacant field) (.vacant field)
  | notVacant (field : String) : Alike (.notVacant field) (.notVacant field)
  | combine (clause : Clause) {fs gs : List Filter}
      (h : List.Forall₂ (fun f g => f.equal g = true) fs gs) :
      Alike (.combine clause fs) (.combine clause gs)
  | negate {f g : Filter} (h : f.equal g = true) : Alike (.negate f) (.negate g)
  | merge {f g : Filter} (h : f.equal g = true) : Alike (.merge f) (.merge g)
  | extend {es ds : List (String × Value)}
      (h : List.Forall₂ (fun e d => e.1 = d.1 ∧ e.2.Alike d.2) es ds) :
      Alike (.extend es) (.extend ds)
  | near (spherical : Bool) (field : String) {p q : Point} {d e : Distance}
      (hp : p.equal q = true) (hd : d.equal e = true) :
      Alike (.near spherical field p d) (.near spherical field q e)
  | intersects (field : String) {s t : Shape} (h : s.equal t = true) :
      Alike (.intersects field s) (.intersects field t)
  | within (field : String) {r s : Region} (h : r.equal s = true) :
      Alike (.within field r) (.within field s)

theorem ElementCondition.Alike.document {a b : ElementCondition} (h : a.Alike b) :
    (∃ e, a.document = .error e ∧ b.document = .error e) ∨
      ∃ d d', a.document = .ok d ∧ b.document = .ok d' ∧
        (Value.document d).Alike (.document d') := by
  cases h with
  | finished h => exact Or.inr ⟨_, _, rfl, rfl, (Filter.equal_iff _ _).1 h⟩
  | deferred h => exact Or.inr ⟨_, _, rfl, rfl, (Filter.equal_iff _ _).1 h⟩
  | @raw v w h =>
    by_cases hk : v.kind = .object
    · obtain ⟨d, rfl⟩ := Value.eq_document_of_kind hk
      obtain ⟨d', rfl⟩ := Value.eq_document_of_kind (h.kind_eq ▸ hk)
      exact Or.inr ⟨d, d', rfl, rfl, h⟩
    · have hraw : ∀ u : Value, u.kind ≠ .object →
          (ElementCondition.raw u).document = .error (.elementCondition u.kind) := by
        intro u hu
        cases u with
        | document d => exact absurd rfl hu
        | _ => rfl
      refine Or.inl ⟨_, hraw v hk, ?_⟩
      rw [hraw w (h.kind_eq ▸ hk), h.kind_eq]

structure Constraint.Alike (a b : Constraint) : Prop where
  field : a.field = b.field
  value : a.value.Alike b.value

namespace Filter

theorem alike_addAll {f g : Filter} {cs ds : List Constraint}
    (h : List.Forall₂ Constraint.Alike cs ds) (hf : f.toValue.Distinct) (hg : g.toValue.Distinct)
    (hcs : ∀ c ∈ cs, c.value.Distinct) (hds : ∀ c ∈ ds, c.value.Distinct)
    (hfg : f.toValue.Alike g.toValue) : (f.addAll cs).toValue.Alike (g.addAll ds).toValue := by
  induction h generalizing f g with
  | nil => exact hfg
  | @cons c d cs ds hcd _ ih =>
    obtain ⟨hc, hcs⟩ := List.forall_mem_cons.1 hcs
    obtain ⟨hd, hds⟩ := List.forall_mem_cons.1 hds
    have hcd' : (Value.document [(c.field, c.value)]).Alike (.document [(d.field, d.value)]) :=
      Value.alike_of_entries (List.nodup_singleton _) (.cons ⟨hcd.field, hcd.value⟩ .nil)
    have hstep := hfg.mergeInto hf hg ((distinct_singleton_iff (c.field, c.value)).2 hc)
      ((distinct_singleton_iff (d.field, d.value)).2 hd) hcd'
    rw [← toValue_perform_put, ← toValue_perform_put] at hstep
    exact ih (distinct_perform_put (c := (c.field, c.value)) hf hc)
      (distinct_perform_put (c := (d.field, d.value)) hg hd) hcs hds hstep

variable {x x' : Filter} {c c' : Call}

theorem alike_perform_of_ok {cs cs' : List Constraint} (h : c.constraints = .ok cs)
    (h' : c'.constraints = .ok cs') (hcs : List.Forall₂ Constraint.Alike cs cs')
    (hc : c.Distinct) (hc' : c'.Distinct) (hx : x.toValue.Distinct) (hx' : x'.toValue.Distinct)
    (hxx : x.toValue.Alike x'.toValue) :
    (x.perform c).refusal = (x'.perform c').refusal ∧
      (x.perform c).filter.toValue.Alike (x'.perform c').filter.toValue := by
  rw [(perform_of_ok h x).1, (perform_of_ok h x).2, (perform_of_ok h' x').1,
    (perform_of_ok h' x').2]
  exact ⟨rfl, alike_addAll hcs hx hx' (Call.distinct_constraints h hc)
    (Call.distinct_constraints h' hc') hxx⟩

theorem alike_perform_of_error {e : MalformedArgument} (h : c.constraints = .error e)
    (h' : c'.constraints = .error e) (hxx : x.toValue.Alike x'.toValue) :
    (x.perform c).refusal = (x'.perform c').refusal ∧
      (x.perform c).filter.toValue.Alike (x'.perform c').filter.toValue := by
  rw [(perform_of_error h x).1, (perform_of_error h x).2, (perform_of_error h' x').1,
    (perform_of_error h' x').2]
  exact ⟨rfl, hxx⟩

theorem alike_arms (field : String) :
    let arms : Value := .array (((vacantArms field).map fun a => empty.addAll [a]).map toValue)
    arms.Alike arms := by
  simp [vacantArms, Value.alike_array_iff, Value.alike_document_iff, toValue, addAll, add, empty,
    Document.add, Document.alter, Value.arrive, Document.get?, fragment]

/-- Both sides negate the values under the same keys, each in its own order. -/
theorem alike_perform_negate {g g' : Filter} (hg : g.toValue.Distinct) (hg' : g'.toValue.Distinct)
    (hx : x.toValue.Distinct) (hx' : x'.toValue.Distinct) (hgg : g.toValue.Alike g'.toValue)
    (hxx : x.toValue.Alike x'.toValue) :
    (x.perform (.negate g)).filter.toValue.Alike (x'.perform (.negate g')).filter.toValue := by
  have hvalue : ∀ f h : Filter, (f.perform (.negate h)).filter.toValue =
      (Value.document (Document.mapValues (fun v => v.negation.2) h.document)).mergeInto
        f.toValue := by
    intro f h
    rw [toValue, document_perform_negate, toValue, Value.mergeInto_document]
  rw [hvalue, hvalue]
  exact hxx.mergeInto hx hx' hg.mapNegation hg'.mapNegation (hgg.mapNegation hg hg')

theorem alike_perform (h : c.Alike c') (hc : c.Distinct) (hc' : c'.Distinct)
    (hx : x.toValue.Distinct) (hx' : x'.toValue.Distinct) (hxx : x.toValue.Alike x'.toValue) :
    (x.perform c).refusal = (x'.perform c').refusal ∧
      (x.perform c).filter.toValue.Alike (x'.perform c').filter.toValue := by
  -- most calls come down to one constraint
  have single : ∀ {field : String} {v w : Value} {n m : Option Negation},
      c.constraints = .ok [⟨field, v, n⟩] → c'.constraints = .ok [⟨field, w, m⟩] → v.Alike w →
      (x.perform c).refusal = (x'.perform c').refusal ∧
        (x.perform c).filter.toValue.Alike (x'.perform c').filter.toValue :=
    fun hcs hcs' hvw =>
      alike_perform_of_ok hcs hcs' (.cons ⟨rfl, hvw⟩ .nil) hc hc' hx hx' hxx
  cases h with
  | put field h => exact single rfl rfl h
  | compare field h => exact single rfl rfl (Comparison.alike_toValue h)
  | present field wanted =>
    exact single rfl rfl ((Value.alike_fragment_iff _ _ _).2 ((Value.alike_bool_iff _ _).2 rfl))
  | hasType field tag =>
    exact single rfl rfl ((Value.alike_fragment_iff _ _ _).2 ((Value.alike_int32_iff _ _).2 rfl))
  | isArray field => exact single rfl rfl ((Value.alike_string_iff _ _).2 rfl)
  | script condition => exact single rfl rfl ((Value.alike_string_iff _ _).2 rfl)
  | like field pattern insensitive =>
    refine single rfl rfl ?_
    simp [Value.alike_document_iff, Document.get?, Keyword.text]
  | all field h =>
    exact single rfl rfl ((Value.alike_fragment_iff _ _ _).2 ((Value.alike_array_iff _ _).2 h))
  | noneOf field h =>
    have hall := (Value.alike_fragment_iff .all _ _).2 ((Value.alike_array_iff _ _).2 h)
    exact single rfl rfl ((Value.alike_fragment_iff _ _ _).2 hall)
  | size field length =>
    exact single rfl rfl ((Value.alike_fragment_iff _ _ _).2 ((Value.alike_int64_iff _ _).2 rfl))
  | elements field h =>
    rcases h.document with ⟨e, ha, hb⟩ | ⟨d, d', ha, hb, hdd⟩
    · exact alike_perform_of_error (Call.constraints_elements_of_error field ha)
        (Call.constraints_elements_of_error field hb) hxx
    · exact single (Call.constraints_elements_of_ok field ha)
        (Call.constraints_elements_of_ok field hb) ((Value.alike_fragment_iff _ _ _).2 hdd)
  | noElements field h =>
    rcases h.document with ⟨e, ha, hb⟩ | ⟨d, d', ha, hb, hdd⟩
    · exact alike_perform_of_error (Call.constraints_noElements_of_error field ha)
        (Call.constraints_noElements_of_error field hb) hxx
    · have hmatch := (Value.alike_fragment_iff .elemMatch _ _).2 hdd
      exact single (Call.constraints_noElements_of_ok field ha)
        (Call.constraints_noElements_of_ok field hb) ((Value.alike_fragment_iff _ _ _).2 hmatch)
  | vacant field => exact single rfl rfl (alike_arms field)
  | notVacant field => exact single rfl rfl (alike_arms field)
  | combine clause h =>
    refine single rfl rfl ((Value.alike_array_iff _ _).2 ?_)
    simpa [equal_iff] using h
  | @negate g g' h =>
    have hg := hc.filters g (List.mem_singleton_self g)
    have hg' := hc'.filters g' (List.mem_singleton_self g')
    exact ⟨rfl, alike_perform_negate hg hg' hx hx' ((equal_iff g g').1 h) hxx⟩
  | @merge g g' h =>
    have hg := hc.filters g (List.mem_singleton_self g)
    have hg' := hc'.filters g' (List.mem_singleton_self g')
    refine ⟨rfl, ?_⟩
    rw [toValue_perform_merge, toValue_perform_merge]
    exact hxx.mergeInto hx hx' hg hg' ((equal_iff g g').1 h)
  | extend h =>
    refine alike_perform_of_ok rfl rfl ?_ hc hc' hx hx' hxx
    rw [List.forall₂_map_left_iff, List.forall₂_map_right_iff]
    exact h.imp fun e d hed => ⟨hed.1, hed.2⟩
  | near spherical field hp hd =>
    exact single rfl rfl (alike_nearFragment spherical hp hd)
  | intersects field h =>
    have hshape := (Value.alike_fragment_iff .geometry _ _).2 ((Shape.alike_toDocument_iff _ _).2 h)
    exact single rfl rfl ((Value.alike_fragment_iff _ _ _).2 hshape)
  | within field h =>
    exact single rfl rfl ((Value.alike_fragment_iff _ _ _).2 (Region.alike_fragment h))

theorem alike_performAll {cs cs' : List Call} (h : List.Forall₂ Call.Alike cs cs')
    (hcs : ∀ c ∈ cs, c.Distinct) (hcs' : ∀ c ∈ cs', c.Distinct) (hx : x.toValue.Distinct)
    (hx' : x'.toValue.Distinct) (hxx : x.toValue.Alike x'.toValue) :
    (x.performAll cs).toValue.Alike (x'.performAll cs').toValue := by
  induction h generalizing x x' with
  | nil => exact hxx
  | @cons c c' cs cs' hcc _ ih =>
    obtain ⟨hc, hcs⟩ := List.forall_mem_cons.1 hcs
    obtain ⟨hc', hcs'⟩ := List.forall_mem_cons.1 hcs'
    rw [performAll_cons, performAll_cons]
    exact ih hcs hcs' (distinct_perform hx hc) (distinct_perform hx' hc')
      (alike_perform hcc hc hc' hx hx' hxx).2

/-- On equal filters a call with equal arguments is refused twice, which leaves both filters as they
were, or it is taken twice and leaves equal filters. Any run of such calls ends in equal filters. -/
theorem equal_performAll (x x' : Filter) (hx : x.toValue.Distinct) (hx' : x'.toValue.Distinct)
    (h : x.equal x' = true) :
    (∀ c c' : Call, c.Alike c' → c.Distinct → c'.Distinct →
      ((x.perform c).refusal ≠ none ∧ (x'.perform c').refusal ≠ none ∧
        (x.perform c).filter = x ∧ (x'.perform c').filter = x') ∨
      ((x.perform c).refusal = none ∧ (x'.perform c').refusal = none ∧
        (x.perform c).filter.equal (x'.perform c').filter = true)) ∧
    ∀ cs cs' : List Call, List.Forall₂ Call.Alike cs cs' → (∀ c ∈ cs, c.Distinct) →
      (∀ c ∈ cs', c.Distinct) → (x.performAll cs).equal (x'.performAll cs') = true := by
  rw [equal_iff] at h
  constructor
  · intro c c' hcc hc hc'
    obtain ⟨hrefusal, halike⟩ := alike_perform hcc hc hc' hx hx' h
    by_cases hr : (x.perform c).refusal = none
    · exact Or.inr ⟨hr, hrefusal ▸ hr, (equal_iff _ _).2 halike⟩
    · have hr' : (x'.perform c').refusal ≠ none := hrefusal ▸ hr
      exact Or.inl ⟨hr, hr', filter_perform_of_refused hr, filter_perform_of_refused hr'⟩
  · intro cs cs' hcs hd hd'
    rw [equal_iff]
    exact alike_performAll hcs hd hd' hx hx' h

/-- A negation, a refused match of elements and a disjunction, with the keys of all documents the
other way round on the other side and one of the zeros negative. -/
theorem equal_performAll_reordered :
    let zero : Value := .double ⟨0⟩
    let minusZero : Value := .double ⟨0x8000000000000000⟩
    let x : Filter :=
      ⟨[("age", .document [("$gt", zero), ("$lt", .int32 9)]), ("tags", .array [.int32 1])]⟩
    let x' : Filter :=
      ⟨[("tags", .array [.int32 1]), ("age", .document [("$lt", .int32 9), ("$gt", minusZero)])]⟩
    let refused : Call := .elements "tags" (.raw (.int32 1))
    let cs : List Call := [.negate ⟨[("age", .document [("$gte", minusZero), ("$lte", .null)]),
      ("name", .string "x")]⟩, refused, .combine .or [⟨[("a", .null), ("b", zero)]⟩]]
    let cs' : List Call := [.negate ⟨[("name", .string "x"),
      ("age", .document [("$lte", .null), ("$gte", zero)])]⟩, refused,
      .combine .or [⟨[("b", minusZero), ("a", .null)]⟩]]
    x.toValue.Distinct ∧ x'.toValue.Distinct ∧ x.equal x' = true ∧
      List.Forall₂ Call.Alike cs cs' ∧ (∀ c ∈ cs, c.Distinct) ∧ (∀ c ∈ cs', c.Distinct) ∧
      ((x.perform refused).refusal ≠ none ∧ (x'.perform refused).refusal ≠ none ∧
        (x.perform refused).filter = x ∧ (x'.perform refused).filter = x') ∧
      (x.performAll cs).equal (x'.performAll cs') = true ∧
      (x.performAll cs).document =
        [("age", .document [("$gt", zero), ("$lt", .int32 9),
            ("$not", .document [("$gte", minusZero), ("$lte", .null)])]),
          ("tags", .array [.int32 1]), ("name", .document [("$ne", .string "x")]),
          ("$or", .array [.document [("a", .null), ("b", zero)]])] ∧
      (x'.performAll cs').document =
        [("tags", .array [.int32 1]), ("age", .document [("$lt", .int32 9), ("$gt", minusZero),
            ("$not", .document [("$lte", .null), ("$gte", zero)])]),
          ("name", .document [("$ne", .string "x")]),
          ("$or", .array [.document [("b", minusZero), ("a", .null)]])] := by
  intro zero minusZero x x' refused cs cs'
  have hx : x.toValue.Distinct := by simp [x, toValue, zero]
  have hx' : x'.toValue.Distinct := by simp [x', toValue, minusZero]
  have h : x.equal x' = true := rfl
  have hrefused : refused.Alike refused :=
    .elements "tags" (.raw ((Value.alike_int32_iff _ _).2 rfl))
  have halike : List.Forall₂ Call.Alike cs cs' :=
    .cons (.negate rfl) (.cons hrefused (.cons (.combine .or (.cons rfl .nil)) .nil))
  have hnegate {g : Filter} (hg : g.toValue.Distinct) : (Call.negate g).Distinct :=
    ⟨List.forall_mem_nil _, List.forall_mem_singleton.2 hg⟩
  have hcombine {g : Filter} (hg : g.toValue.Distinct) : (Call.combine .or [g]).Distinct :=
    ⟨List.forall_mem_nil _, List.forall_mem_singleton.2 hg⟩
  have hr : refused.Distinct :=
    ⟨List.forall_mem_singleton.2 (Value.distinct_int32 1), List.forall_mem_nil _⟩
  have hcs : ∀ c ∈ cs, c.Distinct := by
    simp only [cs, List.forall_mem_cons]
    exact ⟨hnegate (by simp [toValue, minusZero]), hr, hcombine (by simp [toValue, zero]), by simp⟩
  have hcs' : ∀ c ∈ cs', c.Distinct := by
    simp only [cs', List.forall_mem_cons]
    exact ⟨hnegate (by simp [toValue, zero]), hr, hcombine (by simp [toValue, minusZero]), by simp⟩
  obtain ⟨hstep, hrun⟩ := equal_performAll x x' hx hx' h
  refine ⟨hx, hx', h, halike, hcs, hcs', ?_, hrun cs cs' halike hcs hcs', ?_, ?_⟩
  · exact (hstep refused refused hrefused hr hr).resolve_right fun hok => by cases hok.1
  · simp only [x, cs, zero, minusZero]
    rfl
  · simp only [x', cs', zero, minusZero]
    rfl

end Filter

end DocFilter
