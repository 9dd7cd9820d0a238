import DocFilter.Proofs.Calls.Congruence
import DocFilter.Proofs.Calls.Shapes

/-! What is stored for a shape tells it from every other one. The geometry objects of two shapes are
equal, as documents are, only for shapes of one kind with equal coordinates, and so are the filters
that a call about them makes of an empty one. A coordinate that is not a number differs from itself
on both sides, and the two zeros are one coordinate on both. -/

namespace DocFilter

section Placing

variable (field : String) (operators : List Keyword) (v w : Value)

/-- The operators that lead to a shape neither hide a difference nor make one. -/
theorem Placement.alike_value_iff :
    (Placement.mk field operators v).value.Alike (Placement.mk field operators w).value ↔
      v.Alike w := by
  rw [value, value]
  induction operators with
  | nil => rfl
  | cons k rest ih => rw [List.foldr_cons, List.foldr_cons, Value.alike_fragment_iff, ih]

theorem Filter.toValue_perform_empty_of_placement {c : Call} {pl : Placement}
    (h : c.placement? = some pl) :
    (empty.perform c).filter.toValue = .document [(pl.field, pl.value)] := by
  rw [(perform_of_ok (Call.constraints_of_placement h) empty).1]
  rfl

variable {field operators v w}

/-- Two calls that store a shape in one place make equal filters of an empty one exactly if what they
store there is equal. -/
theorem Filter.equal_perform_empty_iff {c d : Call}
    (hc : c.placement? = some ⟨field, operators, v⟩)
    (hd : d.placement? = some ⟨field, operators, w⟩) :
    (empty.perform c).filter.equal (empty.perform d).filter = true ↔ v.Alike w := by
  rw [equal_iff, toValue_perform_empty_of_placement hc, toValue_perform_empty_of_placement hd,
    Value.alike_singleton_iff, Placement.alike_value_iff]

end Placing

namespace Filter

/-- The geometry objects of two shapes are equal documents exactly if the shapes are of one kind and
equal. The same holds of what a search for what intersects them, or lies within them, makes of an
empty filter. -/
theorem geometry_equal_iff (s t : Shape) :
    let same : Prop := s.typeName = t.typeName ∧ s.equal t = true
    (Document.equal s.toDocument t.toDocument = true ↔ same) ∧
      ∀ field : String,
        ((empty.perform (.intersects field s)).filter.equal
            (empty.perform (.intersects field t)).filter = true ↔ same) ∧
          ((empty.perform (.within field (.shape s))).filter.equal
            (empty.perform (.within field (.shape t))).filter = true ↔ same) := by
  intro same
  have hkind : s.equal t = true ↔ same :=
    (and_iff_right_of_imp fun h => ((Shape.equal_iff s t).1 h).1).symm
  have hobject := (Shape.alike_toDocument_iff s t).trans hkind
  refine ⟨?_, fun field => ⟨?_, ?_⟩⟩
  · exact (equal_iff ⟨s.toDocument⟩ ⟨t.toDocument⟩).trans hobject
  · exact (equal_perform_empty_iff rfl rfl).trans hobject
  · exact (equal_perform_empty_iff rfl rfl).trans hobject

/-- A ring without points is not the same as no ring. -/
example : Document.equal (Shape.polygon [[]]).toDocument (Shape.polygon []).toDocument = false := by
  decide

end Filter
end DocFilter
