import DocFilter.Proofs.Script.Literals

/-! Filters from documents. The document of a filter makes the same filter again, whether it is taken
for one and merged, collected from its entries, or used to extend an empty filter. This rests on its
keys alone: a document comes back exactly if it holds every key once, as the documents of all filters
of a script do. -/

namespace DocFilter

def Document.terms (d : Document) : List (String × Term) := d.map fun e => (e.1, .value e.2)

theorem evalEntries_terms (names : Names) (d : Document) : (evalEntries names d.terms).1 = d := by
  induction d with
  | nil => rw [Document.terms, List.map_nil, evalEntries]
  | cons entry rest ih =>
    rw [Document.terms, List.map_cons, evalEntries, Term.eval]
    exact congrArg (List.cons entry) ih

/-- Every way to make a filter of a document makes the filter that holds just this document. -/
structure Document.Returns (d : Document) : Prop where
  adopted : ∀ names, ((FilterTerm.document d.terms).eval names).1.document = d
  merged : (Filter.empty.perform (.merge ⟨d⟩)).filter.document = d
  collected : ∀ names, ((FilterTerm.entries d.terms).eval names).1.document = d
  extended : (Filter.empty.perform (.extend d)).filter.document = d

/-- A repeated key would not be stored a second time. -/
theorem Document.returns_iff (d : Document) : d.Returns ↔ (keys d).Nodup := by
  constructor
  · intro h
    have hnodup := Filter.nodup_keys_perform (f := .empty) List.nodup_nil (.extend d)
    rwa [h.extended] at hnodup
  · intro h
    have hextended : (Filter.empty.perform (.extend d)).filter.document = d :=
      (Filter.document_perform_merge .empty ⟨d⟩).trans (merge_empty h)
    refine ⟨fun names => ?_, hextended, fun names => ?_, hextended⟩
    · rw [FilterTerm.eval]
      exact (congrArg ofEntries (evalEntries_terms names d)).trans (ofEntries_of_nodup h)
    · rw [FilterTerm.eval]
      exact (congrArg (fun es => (Filter.empty.extend es).document)
        (evalEntries_terms names d)).trans hextended

/-- In a script that is written with values in which no document repeats a key, the document of every
filter at any time makes this filter again, in every way, and merging an empty filter into one of
them changes nothing. Of all documents, exactly those that hold every key once come back. -/
theorem snapshots_return (names : Names) (hn : ∀ name, (names name).toValue.Distinct)
    (script : List (String × Step)) (h : ∀ v ∈ scriptLiterals script, v.Distinct) :
    (∀ g ∈ scriptFilters names script,
        g.document.Returns ∧ (g.perform (.merge .empty)).filter = g) ∧
      ∀ d : Document, d.Returns ↔ (Document.keys d).Nodup := by
  refine ⟨fun g hg => ⟨?_, rfl⟩, Document.returns_iff⟩
  have hdistinct := keeps_distinct.script hn (scriptDeeds_distinct hn h) g hg
  exact (Document.returns_iff g.document).2 hdistinct.keys

/-- Arrays have been joined and documents merged, and a call was refused; taken for a filter again,
the document does not join its arrays with themselves. One with a repeated key does not come back. -/
theorem snapshots_return_joined :
    let script : List (String × Step) :=
      [("main", .put "tags" (.array [.value (.int32 1)])),
       ("main", .merge (.entries [("age", .relation .gt (.value (.int32 5))),
         ("tags", .array [.value (.int32 2)]), ("age", .relation .lt (.value (.int32 9)))])),
       ("main", .elements "parts" (.raw (.value .null)))]
    let g : Filter := ⟨[("tags", .array [.int32 1, .int32 2]),
      ("age", .document [("$gt", .int32 5), ("$lt", .int32 9)])]⟩
    (∀ name, (noNames name).toValue.Distinct) ∧ (∀ v ∈ scriptLiterals script, v.Distinct) ∧
      g ∈ scriptFilters noNames script ∧ g.document.Returns ∧
      (g.perform (.merge .empty)).filter = g ∧
      ¬ Document.Returns [("tags", .array [.int32 1]), ("tags", .array [.int32 2])] := by
  intro script g
  have hn : ∀ name, (noNames name).toValue.Distinct := fun _ => Filter.distinct_empty
  have hs : scriptLiterals script = [.int32 1, .int32 5, .int32 2, .int32 9, .null] := rfl
  have h : ∀ v ∈ scriptLiterals script, v.Distinct := by simp [hs]
  have hg : g ∈ scriptFilters noNames script := by
    have hlast : (runScript noNames script).map Effect.filter =
        [⟨[("tags", .array [.int32 1])]⟩, g, g] := rfl
    refine List.mem_append_right _ ?_
    rw [hlast]
    simp
  obtain ⟨hreturns, hiff⟩ := snapshots_return noNames hn script h
  refine ⟨hn, h, hg, (hreturns g hg).1, (hreturns g hg).2, ?_⟩
  rw [hiff]
  decide

end DocFilter
