import DocFilter.Proofs.Calls.Keys
import Mathlib.Data.List.Induction

/-! The lists of clauses. If a run leaves the keys of the three clauses to the calls that are about
them, the filter has such a key exactly when a call has contributed to it, and then it holds the
array of all contributions in the order of the calls. -/

namespace DocFilter

def IsClauseKey (k : String) : Prop := ∃ kind : Clause, k = kind.keyword.text

theorem isClauseKey_iff (k : String) : IsClauseKey k ↔ k ∈ ["$or", "$and", "$nor"] := by
  constructor
  · rintro ⟨kind, rfl⟩
    cases kind <;> decide
  · simp only [List.mem_cons, List.not_mem_nil, or_false]
    rintro (rfl | rfl | rfl)
    · exact ⟨.or, rfl⟩
    · exact ⟨.and, rfl⟩
    · exact ⟨.nor, rfl⟩

instance : DecidablePred IsClauseKey := fun k => decidable_of_iff _ (isClauseKey_iff k).symm

/-- The documents of the four ways for a field to be vacant. -/
def vacancies (field : String) : List Value :=
  [.document [(field, .null)], .document [(field, .string "")], .document [(field, .array [])],
    .document [(field, .document [("$exists", .bool false)])]]

def Value.items : Value → List Value
  | .array items => items
  | _ => []

namespace Call

/-- The keys that a call is given: its field, the keys of its entries, and those of a filter that it
negates. -/
def named : Call → List String
  | .put field _ | .compare field _ | .present field _ | .hasType field _ | .isArray field
  | .like field _ _ | .all field _ | .noneOf field _ | .size field _ | .elements field _
  | .noElements field _ | .vacant field | .notVacant field | .near _ field _ _
  | .intersects field _ | .within field _ => [field]
  | .negate f => Document.keys f.document
  | .extend entries => Document.keys entries
  | .script _ | .combine .. | .merge _ => []

/-- What a call adds to the list of a clause, if it adds to it at all. -/
def contribution (kind : Clause) : Call → Option (List Value)
  | .combine c filters => if c = kind then some (filters.map Filter.toValue) else none
  | .vacant field => if kind = .or then some (vacancies field) else none
  | .notVacant field => if kind = .nor then some (vacancies field) else none
  | .merge g => (Document.get? g.document kind.keyword.text).map Value.items
  | _ => none

end Call

/-- Built from an empty filter by calls none of which is given the key of a clause. The filters that
they merge are built in this way as well. -/
inductive Filter.Orderly : Filter → Prop where
  | empty : Orderly .empty
  | perform (f : Filter) (c : Call) (built : Orderly f) (named : ∀ k ∈ c.named, ¬ IsClauseKey k)
      (merged : ∀ g, c = .merge g → Orderly g) : Orderly (f.perform c).filter

structure Call.Orderly (c : Call) : Prop where
  named : ∀ k ∈ c.named, ¬ IsClauseKey k
  merged : ∀ g, c = .merge g → g.Orderly

/-- Every key is held once, and every clause that there is holds an array of documents. -/
structure Filter.HoldsClauses (f : Filter) : Prop where
  keys : (Document.keys f.document).Nodup
  clauses : ∀ (kind : Clause) (v : Value), Document.get? f.document kind.keyword.text = some v →
    ∃ items, v = .array items ∧ ∀ x ∈ items, x.kind = .object

theorem Clause.text_injective {kind kind' : Clause}
    (h : kind.keyword.text = kind'.keyword.text) : kind = kind' := by
  revert h
  cases kind <;> cases kind' <;> decide

theorem not_isClauseKey_where : ¬ IsClauseKey Keyword.script.text := by decide

theorem kind_vacancies (field : String) : ∀ x ∈ vacancies field, x.kind = .object := by
  simp [vacancies]

namespace Call

theorem field_ne_single {field k : String} {value : Value} {negation : Option Negation}
    (h : field ≠ k) : ∀ x ∈ [Constraint.mk field value negation], x.field ≠ k :=
  List.forall_mem_singleton.2 h

theorem field_ne {c : Call} {cs : List Constraint} {kind : Clause} (h : c.constraints = .ok cs)
    (hc : c.Orderly) (hk : c.contribution kind = none) :
    ∀ x ∈ cs, x.field ≠ kind.keyword.text := by
  have hfield : ∀ k ∈ c.named, k ≠ kind.keyword.text :=
    fun k hmem hkey => hc.named k hmem ⟨kind, hkey⟩
  have hwhere : Keyword.script.text ≠ kind.keyword.text :=
    fun hkey => not_isClauseKey_where ⟨kind, hkey⟩
  cases c with
  | isArray field | script condition =>
    cases h
    exact field_ne_single hwhere
  | combine c filters =>
    cases h
    refine field_ne_single fun hkey => ?_
    simp [contribution, Clause.text_injective hkey] at hk
  | vacant field | notVacant field =>
    cases h
    refine field_ne_single fun hkey => ?_
    simp [contribution, ← Clause.text_injective hkey] at hk
  | merge g =>
    cases h
    refine List.forall_mem_map.2 fun entry hentry hkey => ?_
    have hnone : Document.get? g.document kind.keyword.text = none := by
      simpa [contribution] using hk
    rw [Document.get?_eq_none_iff] at hnone
    exact hnone (hkey ▸ List.mem_map_of_mem hentry)
  | negate g =>
    cases h
    refine List.forall_mem_map.2 fun entry hentry => hfield _ ?_
    exact List.mem_map_of_mem hentry
  | extend entries =>
    cases h
    refine List.forall_mem_map.2 fun entry hentry => hfield _ ?_
    exact List.mem_map_of_mem hentry
  | elements field condition =>
    obtain ⟨_, -, rfl⟩ := constraints_elements h
    exact field_ne_single (hfield _ (List.mem_singleton_self _))
  | noElements field condition =>
    obtain ⟨_, -, rfl⟩ := constraints_noElements h
    exact field_ne_single (hfield _ (List.mem_singleton_self _))
  | _ =>
    cases h
    exact field_ne_single (hfield _ (List.mem_singleton_self _))

theorem constraints_of_contribution {c : Call} {kind : Clause} {items : List Value}
    (hm : ∀ g, c ≠ .merge g) (h : c.contribution kind = some items) :
    (∃ negation, c.constraints = .ok [⟨kind.keyword.text, .array items, negation⟩]) ∧
      ∀ x ∈ items, x.kind = .object := by
  cases c with
  | combine c filters =>
    rw [contribution] at h
    split_ifs at h with hc
    obtain rfl := Option.some.inj h
    subst hc
    exact ⟨⟨none, rfl⟩, List.forall_mem_map.2 fun _ _ => rfl⟩
  | vacant field =>
    rw [contribution] at h
    split_ifs at h with hc
    obtain rfl := Option.some.inj h
    subst hc
    exact ⟨⟨none, rfl⟩, kind_vacancies field⟩
  | notVacant field =>
    rw [contribution] at h
    split_ifs at h with hc
    obtain rfl := Option.some.inj h
    subst hc
    exact ⟨⟨none, rfl⟩, kind_vacancies field⟩
  | merge g => exact absurd rfl (hm g)
  | _ => cases h

end Call

namespace Filter

theorem get?_addAll_of_ne (f : Filter) {cs : List Constraint} {k : String}
    (h : ∀ c ∈ cs, c.field ≠ k) :
    Document.get? (f.addAll cs).document k = Document.get? f.document k := by
  induction cs generalizing f with
  | nil => rfl
  | cons c rest ih =>
    obtain ⟨hc, hrest⟩ := List.forall_mem_cons.1 h
    rw [addAll, ih _ hrest, add, Document.get?_add, if_neg hc.symm]

theorem get?_perform_of_none (f : Filter) {c : Call} {kind : Clause} (hc : c.Orderly)
    (hk : c.contribution kind = none) :
    Document.get? (f.perform c).filter.document kind.keyword.text =
      Document.get? f.document kind.keyword.text := by
  cases h : c.constraints with
  | ok cs =>
    rw [(perform_of_ok h f).1]
    exact get?_addAll_of_ne f (Call.field_ne h hc hk)
  | error e => rw [(perform_of_error h f).1]

theorem get?_perform_of_some (f : Filter) {c : Call} {kind : Clause} {items : List Value}
    (hg : ∀ g, c = .merge g → g.HoldsClauses) (hk : c.contribution kind = some items) :
    Document.get? (f.perform c).filter.document kind.keyword.text =
        some ((Value.array items).arrive (Document.get? f.document kind.keyword.text)) ∧
      ∀ x ∈ items, x.kind = .object := by
  by_cases hm : ∃ g, c = .merge g
  · obtain ⟨g, rfl⟩ := hm
    obtain ⟨v, hv, rfl⟩ := Option.map_eq_some_iff.1 hk
    obtain ⟨items, rfl, hitems⟩ := (hg g rfl).clauses kind v hv
    refine ⟨?_, hitems⟩
    rw [document_perform_merge]
    exact Document.get?_merge_of_some _ (hg g rfl).keys hv
  · obtain ⟨⟨negation, h⟩, hitems⟩ := Call.constraints_of_contribution (not_exists.1 hm) hk
    refine ⟨?_, hitems⟩
    rw [(perform_of_ok h f).1, addAll, addAll, add, Document.get?_add, if_pos rfl]

theorem holdsClauses_empty : empty.HoldsClauses where
  keys := List.nodup_nil
  clauses _ _ h := by cases h

theorem HoldsClauses.perform {f : Filter} {c : Call} (hf : f.HoldsClauses) (hc : c.Orderly)
    (hg : ∀ g, c = .merge g → g.HoldsClauses) : (f.perform c).filter.HoldsClauses where
  keys := nodup_keys_perform hf.keys c
  clauses kind v hv := by
    cases hk : c.contribution kind with
    | none =>
      rw [get?_perform_of_none f hc hk] at hv
      exact hf.clauses kind v hv
    | some items =>
      obtain ⟨hget, hitems⟩ := get?_perform_of_some f hg hk
      obtain rfl := Option.some.inj (hget.symm.trans hv)
      cases hold : Document.get? f.document kind.keyword.text with
      | none => exact ⟨items, rfl, hitems⟩
      | some old =>
        obtain ⟨before, rfl, hbefore⟩ := hf.clauses kind old hold
        refine ⟨before ++ items, Value.mergeInto_array before items, ?_⟩
        exact List.forall_mem_append.2 ⟨hbefore, hitems⟩

theorem Orderly.holdsClauses {f : Filter} (hf : f.Orderly) : f.HoldsClauses := by
  induction hf with
  | empty => exact holdsClauses_empty
  | perform f c _ named merged ih ihm => exact ih.perform ⟨named, merged⟩ ihm

theorem get?_performAll_clause {cs : List Call} (h : ∀ c ∈ cs, c.Orderly) (kind : Clause) :
    Document.get? (empty.performAll cs).document kind.keyword.text =
      if cs.filterMap (Call.contribution kind) = [] then none
      else some (.array (cs.filterMap (Call.contribution kind)).flatten) := by
  induction cs using List.reverseRecOn with
  | nil => rfl
  | append_singleton cs c ih =>
    obtain ⟨hcs, hc⟩ := List.forall_mem_append.1 h
    have hc : c.Orderly := hc c (List.mem_singleton_self c)
    rw [performAll_concat]
    cases hk : c.contribution kind with
    | none => simpa [get?_perform_of_none _ hc hk, hk] using ih hcs
    | some items =>
      rw [(get?_perform_of_some _ (fun g hg => (hc.merged g hg).holdsClauses) hk).1, ih hcs]
      have hparts : (cs ++ [c]).filterMap (Call.contribution kind) =
          cs.filterMap (Call.contribution kind) ++ [items] := by simp [hk]
      have hne : cs.filterMap (Call.contribution kind) ++ [items] ≠ [] := by simp
      rw [hparts, if_neg hne, List.flatten_concat]
      split_ifs with hnil
      · rw [hnil]
        rfl
      · exact congrArg some (Value.mergeInto_array _ items)

theorem Orderly.performAll {f : Filter} (hf : f.Orderly) {cs : List Call}
    (h : ∀ c ∈ cs, c.Orderly) : (f.performAll cs).Orderly := by
  induction cs generalizing f with
  | nil => exact hf
  | cons c rest ih =>
    obtain ⟨hc, hrest⟩ := List.forall_mem_cons.1 h
    exact ih (.perform f c hf hc.named hc.merged) hrest

/-- After a run that gives no call the key of a clause, the filter has such a key if and only if
some call has contributed to it, and then the key holds the array of the contributions, one after the
other in the order of the calls: documents alone, none lost and none twice. What a merged filter has
for the key is an array as well, so it contributes all of it. -/
theorem clauses_accumulate (cs : List Call) (h : ∀ c ∈ cs, c.Orderly) (kind : Clause) :
    let d := (empty.performAll cs).document
    let parts := cs.filterMap (Call.contribution kind)
    (kind.keyword.text ∈ Document.keys d ↔ ∃ c ∈ cs, (c.contribution kind).isSome) ∧
      (kind.keyword.text ∈ Document.keys d →
        Document.get? d kind.keyword.text = some (.array parts.flatten) ∧
        ∀ x ∈ parts.flatten, x.kind = .object) ∧
      ∀ g, .merge g ∈ cs → ∀ v, Document.get? g.document kind.keyword.text = some v →
        v = .array v.items := by
  intro d parts
  have hget : Document.get? d kind.keyword.text =
      if parts = [] then none else some (.array parts.flatten) := get?_performAll_clause h kind
  have hnone : parts = [] ↔ ∀ c ∈ cs, c.contribution kind = none := List.filterMap_eq_nil_iff
  have hmem : kind.keyword.text ∈ Document.keys d ↔ parts ≠ [] := by
    rw [← not_iff_not, ← Document.get?_eq_none_iff, hget, not_not]
    split_ifs with hnil <;> simp [hnil]
  refine ⟨?_, fun hkey => ?_, fun g hg v hv => ?_⟩
  · rw [hmem, Ne, hnone]
    simp [Option.isSome_iff_ne_none]
  · rw [hget, if_neg (hmem.1 hkey)]
    refine ⟨rfl, ?_⟩
    have hholds := (Orderly.empty.performAll h).holdsClauses
    obtain ⟨items, hitems, hkind⟩ := hholds.clauses kind _ (hget.trans (if_neg (hmem.1 hkey)))
    obtain rfl := Value.array.inj hitems
    exact hkind
  · obtain ⟨items, rfl, -⟩ := ((h _ hg).merged g rfl).holdsClauses.clauses kind v hv
    rfl

/-- Two lists of filters, the four ways of being vacant and what a merged filter has for the same
clause; a refused call, a negation and a clause with another key in between. -/
theorem clauses_accumulate_mixed :
    let a : Filter := ⟨[("a", .int32 1)]⟩
    let g : Filter := empty.performAll [.combine .or [a], .combine .nor []]
    let cs : List Call := [.combine .or [a, empty], .negate a, .vacant "b", .merge g,
      .elements "c" (.raw .null), .combine .and [a], .combine .or []]
    (∀ c ∈ cs, c.Orderly) ∧
      Document.get? (empty.performAll cs).document "$or" =
        some (.array ([a.toValue, .document []] ++ vacancies "b" ++ [a.toValue])) ∧
      Document.get? (empty.performAll cs).document "$nor" = some (.array []) ∧
      Document.keys (empty.performAll cs).document = ["$or", "a", "$nor", "$and"] := by
  intro a g cs
  have hcall {c : Call} (hn : ∀ k ∈ c.named, ¬ IsClauseKey k) (hm : ∀ g, c ≠ .merge g) :
      c.Orderly := ⟨hn, fun g hg => absurd hg (hm g)⟩
  have hg : g.Orderly := by
    refine Orderly.empty.performAll ?_
    simp only [List.forall_mem_cons]
    exact ⟨hcall (by decide) (by simp), hcall (by decide) (by simp), by simp⟩
  have hcs : ∀ c ∈ cs, c.Orderly := by
    simp only [cs, List.forall_mem_cons]
    refine ⟨hcall (by decide) (by simp), hcall (by decide) (by simp), hcall (by decide) (by simp),
      ⟨by decide, fun g' h => ?_⟩, hcall (by decide) (by simp), hcall (by decide) (by simp),
      hcall (by decide) (by simp), by simp⟩
    obtain rfl := Call.merge.inj h
    exact hg
  have hkeys : Document.keys (empty.performAll cs).document = ["$or", "a", "$nor", "$and"] := rfl
  have hparts : (cs.filterMap (Call.contribution .or)).flatten =
      [a.toValue, .document []] ++ vacancies "b" ++ [a.toValue] := rfl
  have hor := ((clauses_accumulate cs hcs .or).2.1 (by rw [hkeys]; decide)).1
  have hnor := ((clauses_accumulate cs hcs .nor).2.1 (by rw [hkeys]; decide)).1
  exact ⟨hcs, hor.trans (congrArg (some ∘ Value.array) hparts), hnor, hkeys⟩

end Filter

end DocFilter
