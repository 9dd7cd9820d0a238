import DocFilter.Proofs.Calls.Clauses

/-! What the two predicates about vacant fields mean. A filter is read as the conjunction of its
entries, and the three clauses as their names say. The clause `$nor` is a conjunction of negations,
so that a field is not vacant can be added to any filter. The clause `$or` is a disjunction: that a
field is vacant is one more alternative if the filter has the clause already, and then it does not
constrain the filter but weakens it. -/

namespace DocFilter

namespace Clause

def all : List Clause := [.or, .and, .nor]

def ofKey? (key : String) : Option Clause := all.find? (·.keyword.text == key)

def holds (readings : List Bool) : Clause → Bool
  | .or => readings.any id
  | .and => readings.all id
  | .nor => !readings.any id

theorem ofKey?_text (kind : Clause) : ofKey? kind.keyword.text = some kind := by
  cases kind <;> decide

theorem ofKey?_of_field {key : String} (h : ¬ IsClauseKey key) : ofKey? key = none := by
  rw [ofKey?, List.find?_eq_none]
  intro kind _ hkey
  exact h ⟨kind, (eq_of_beq hkey).symm⟩

end Clause

mutual

/-- The reading of a document under a valuation of its atoms; other values are never accepted. -/
def Value.accepts (truth : String × Value → Bool) : Value → Bool
  | .document entries => entriesAccept truth entries
  | _ => false

def entriesAccept (truth : String × Value → Bool) : List (String × Value) → Bool
  | [] => true
  | (key, value) :: rest =>
    (match Clause.ofKey? key with
      | some kind => kind.holds (value.readings truth)
      | none => truth (key, value)) && entriesAccept truth rest

def Value.readings (truth : String × Value → Bool) : Value → List Bool
  | .array items => itemReadings truth items
  | _ => []

def itemReadings (truth : String × Value → Bool) : List Value → List Bool
  | [] => []
  | item :: rest => item.accepts truth :: itemReadings truth rest

end

theorem itemReadings_eq_map (truth : String × Value → Bool) (items : List Value) :
    itemReadings truth items = items.map (Value.accepts truth) := by
  induction items with
  | nil => rfl
  | cons item rest ih => rw [itemReadings, ih, List.map_cons]

@[simp] theorem Value.readings_array (truth : String × Value → Bool) (items : List Value) :
    (array items).readings truth = items.map (accepts truth) := by
  rw [readings, itemReadings_eq_map]

def entryAccepts (truth : String × Value → Bool) (entry : String × Value) : Bool :=
  match Clause.ofKey? entry.1 with
  | some kind => kind.holds (entry.2.readings truth)
  | none => truth entry

theorem entriesAccept_eq_all (truth : String × Value → Bool) (entries : List (String × Value)) :
    entriesAccept truth entries = entries.all (entryAccepts truth) := by
  induction entries with
  | nil => rfl
  | cons entry rest ih => rw [entriesAccept, ih]; rfl

def Filter.accepts (truth : String × Value → Bool) (f : Filter) : Bool := f.toValue.accepts truth

theorem Filter.accepts_eq_all (truth : String × Value → Bool) (f : Filter) :
    f.accepts truth = f.document.all (entryAccepts truth) := by
  rw [accepts, toValue, Value.accepts, entriesAccept_eq_all]

namespace Document

theorem all_eq_and {d : Document} (hd : (keys d).Nodup) (test : String × Value → Bool)
    (k : String) :
    d.all test = (((get? d k).all fun v => test (k, v)) && (without d k).all test) := by
  induction d with
  | nil => rfl
  | cons entry rest ih =>
    obtain ⟨key, value⟩ := entry
    obtain ⟨hkey, hrest⟩ := List.nodup_cons.1 hd
    rw [List.all_cons, ih hrest]
    by_cases h : key = k
    · subst h
      have hnone : get? rest key = none := (get?_eq_none_iff rest key).2 hkey
      simp [get?, without, hnone]
    · simp [get?, without, h, Bool.and_left_comm]

end Document

namespace Filter

/-- The filters in the list of a clause, none if there is no such clause. -/
def listed (f : Filter) (kind : Clause) : List Value :=
  ((Document.get? f.document kind.keyword.text).map Value.items).getD []

def acceptsBut (truth : String × Value → Bool) (kind : Clause) (f : Filter) : Bool :=
  entriesAccept truth (Document.without f.document kind.keyword.text)

theorem entryAccepts_clause (truth : String × Value → Bool) (kind : Clause) (items : List Value) :
    entryAccepts truth (kind.keyword.text, .array items) =
      kind.holds (items.map (Value.accepts truth)) := by
  rw [entryAccepts, Clause.ofKey?_text, Value.readings_array]

theorem accepts_of_absent {f : Filter} (hf : f.HoldsClauses) {kind : Clause}
    (h : Document.get? f.document kind.keyword.text = none) (truth : String × Value → Bool) :
    f.accepts truth = f.acceptsBut truth kind := by
  rw [accepts_eq_all, Document.all_eq_and hf.keys _ kind.keyword.text, h, acceptsBut,
    entriesAccept_eq_all]
  rfl

theorem accepts_of_present {f : Filter} (hf : f.HoldsClauses) {kind : Clause} {v : Value}
    (h : Document.get? f.document kind.keyword.text = some v) (truth : String × Value → Bool) :
    f.accepts truth =
      (kind.holds ((f.listed kind).map (Value.accepts truth)) && f.acceptsBut truth kind) := by
  obtain ⟨items, rfl, -⟩ := hf.clauses kind v h
  have hl : f.listed kind = items := by simp [listed, h, Value.items]
  rw [accepts_eq_all, Document.all_eq_and hf.keys _ kind.keyword.text, h, acceptsBut,
    entriesAccept_eq_all, hl, Option.all_some, entryAccepts_clause]

/-- A clause that holds of no filters at all need not be told from one that is not there. -/
theorem accepts_eq_and {f : Filter} (hf : f.HoldsClauses) {kind : Clause} (hk : kind.holds [] = true)
    (truth : String × Value → Bool) :
    f.accepts truth =
      (kind.holds ((f.listed kind).map (Value.accepts truth)) && f.acceptsBut truth kind) := by
  cases h : Document.get? f.document kind.keyword.text with
  | none =>
    have hl : f.listed kind = [] := by simp [listed, h]
    rw [accepts_of_absent hf h, hl, List.map_nil, hk, Bool.true_and]
  | some v => exact accepts_of_present hf h truth

/-- Filters that are added to a clause join those that it has. -/
theorem accepts_add_clause {f : Filter} (hf : f.HoldsClauses) (kind : Clause) (items : List Value)
    (truth : String × Value → Bool) :
    (f.add kind.keyword.text (.array items)).accepts truth =
      (kind.holds ((f.listed kind ++ items).map (Value.accepts truth)) &&
        f.acceptsBut truth kind) := by
  have hget : Document.get? (f.add kind.keyword.text (.array items)).document kind.keyword.text =
      some (.array (f.listed kind ++ items)) := by
    rw [add, Document.get?_add, if_pos rfl]
    cases hold : Document.get? f.document kind.keyword.text with
    | none => simp [listed, hold, Value.arrive]
    | some old =>
      obtain ⟨before, rfl, -⟩ := hf.clauses kind old hold
      simp [listed, hold, Value.arrive, Value.items]
  have hkeys : (Document.keys (f.add kind.keyword.text (.array items)).document).Nodup :=
    nodup_keys_addAll hf.keys [⟨kind.keyword.text, .array items, none⟩]
  rw [accepts_eq_all, Document.all_eq_and hkeys _ kind.keyword.text, hget, Option.all_some,
    entryAccepts_clause, acceptsBut, entriesAccept_eq_all]
  congr 2
  exact Document.without_add _ _ _

end Filter

def isVacant (truth : String × Value → Bool) (field : String) : Bool :=
  truth (field, .null) || truth (field, .string "") || truth (field, .array []) ||
    truth (field, .document [("$exists", .bool false)])

theorem any_vacancies {field : String} (h : ¬ IsClauseKey field) (truth : String × Value → Bool) :
    (vacancies field).any (Value.accepts truth) = isVacant truth field := by
  simp [vacancies, isVacant, Value.accepts, entriesAccept, Clause.ofKey?_of_field h, Bool.or_assoc]

namespace Filter

section Vacancy

variable {f : Filter} {field : String}

/-- A vacant field is one more alternative in the clause `$or`. -/
theorem accepts_perform_vacant (hf : f.HoldsClauses) (hfield : ¬ IsClauseKey field)
    (truth : String × Value → Bool) :
    (f.perform (.vacant field)).filter.accepts truth =
      (((f.listed .or).any (Value.accepts truth) || isVacant truth field) &&
        f.acceptsBut truth .or) := by
  change (f.add Clause.or.keyword.text (.array (vacancies field))).accepts truth = _
  rw [accepts_add_clause hf, Clause.holds, List.any_map, List.any_append, ← any_vacancies hfield]
  rfl

/-- That a field is not vacant is added to what the filter says. -/
theorem accepts_perform_notVacant (hf : f.HoldsClauses) (hfield : ¬ IsClauseKey field)
    (truth : String × Value → Bool) :
    (f.perform (.notVacant field)).filter.accepts truth =
      (f.accepts truth && !isVacant truth field) := by
  change (f.add Clause.nor.keyword.text (.array (vacancies field))).accepts truth = _
  have hnor : Clause.nor.holds [] = true := rfl
  rw [accepts_add_clause hf, accepts_eq_and hf hnor, Clause.holds, Clause.holds, List.any_map,
    List.any_map, List.any_append, ← any_vacancies hfield, Bool.not_or, Bool.and_right_comm]
  rfl

/-- When the clause `$or` is there already, the field constrains the filter as it should only if the
alternatives say of it what the filter leaves open: with all else accepted, one of them holds exactly
where the field is vacant. -/
theorem forall_accepts_perform_vacant_iff (hf : f.HoldsClauses) (hfield : ¬ IsClauseKey field) :
    (∀ truth, (f.perform (.vacant field)).filter.accepts truth =
        (f.accepts truth && isVacant truth field)) ↔
      Document.get? f.document Clause.or.keyword.text = none ∨
        ∀ truth, f.acceptsBut truth .or = true →
          (f.listed .or).any (Value.accepts truth) = isVacant truth field := by
  simp only [accepts_perform_vacant hf hfield]
  cases h : Document.get? f.document Clause.or.keyword.text with
  | none =>
    have hl : f.listed .or = [] := by simp [listed, h]
    simp [accepts_of_absent hf h, hl, Bool.and_comm]
  | some v =>
    simp only [accepts_of_present hf h, Clause.holds, List.any_map, reduceCtorEq, false_or]
    refine forall_congr' fun truth => ?_
    change _ = ((f.listed .or).any (Value.accepts truth) && _ && _) ↔ _
    cases f.acceptsBut truth .or <;> cases (f.listed .or).any (Value.accepts truth) <;>
      cases isVacant truth field <;> decide

end Vacancy

/-- What the two calls about vacant fields make of a filter that a run has built without the keys of
clauses. That a field is not vacant is always added as one more condition. That it is vacant is one
if the filter has no clause `$or` yet, and otherwise only where the alternatives of that clause come
to the same. -/
theorem vacancy_constrains_iff (f : Filter) (field : String) (hf : f.Orderly)
    (hfield : ¬ IsClauseKey field) :
    (∀ truth, (f.perform (.vacant field)).filter.accepts truth =
        (((f.listed .or).any (Value.accepts truth) || isVacant truth field) &&
          f.acceptsBut truth .or)) ∧
      ((∀ truth, (f.perform (.vacant field)).filter.accepts truth =
          (f.accepts truth && isVacant truth field)) ↔
        Document.get? f.document Clause.or.keyword.text = none ∨
          ∀ truth, f.acceptsBut truth .or = true →
            (f.listed .or).any (Value.accepts truth) = isVacant truth field) ∧
      ∀ truth, (f.perform (.notVacant field)).filter.accepts truth =
        (f.accepts truth && !isVacant truth field) :=
  ⟨accepts_perform_vacant hf.holdsClauses hfield,
    forall_accepts_perform_vacant_iff hf.holdsClauses hfield,
    accepts_perform_notVacant hf.holdsClauses hfield⟩

/-- The same field may be required to be vacant twice, but not a second field. -/
theorem vacancy_constrains_iff_second_field :
    let f : Filter := empty.performAll [.put "n" (.int32 1), .vacant "a", .notVacant "c"]
    f.Orderly ∧ ¬ IsClauseKey "a" ∧ ¬ IsClauseKey "b" ∧
      (∀ truth, (f.perform (.vacant "a")).filter.accepts truth =
        (f.accepts truth && isVacant truth "a")) ∧
      (∀ truth, (f.perform (.notVacant "b")).filter.accepts truth =
        (f.accepts truth && !isVacant truth "b")) ∧
      ¬ ∀ truth, (f.perform (.vacant "b")).filter.accepts truth =
        (f.accepts truth && isVacant truth "b") := by
  intro f
  have hf : f.Orderly := by
    refine Orderly.empty.performAll ?_
    simp only [List.forall_mem_cons]
    exact ⟨⟨by decide, by simp⟩, ⟨by decide, by simp⟩, ⟨by decide, by simp⟩, by simp⟩
  have ha : ¬ IsClauseKey "a" := by decide
  have hb : ¬ IsClauseKey "b" := by decide
  have hlisted : f.listed .or = vacancies "a" := rfl
  refine ⟨hf, ha, hb, ?_, (vacancy_constrains_iff f "b" hf hb).2.2, fun h => ?_⟩
  · refine (vacancy_constrains_iff f "a" hf ha).2.1.2 (Or.inr fun truth _ => ?_)
    rw [hlisted, any_vacancies ha]
  · -- a document in which `a` is vacant and `b` is not
    exact absurd (h fun atom => atom.1 == "a" || atom.1 == "n") (by decide)

/-- Two fields that are to be vacant: it is enough that one of them is, although there is a filter
that asks for both. -/
theorem second_vacant_field_is_an_alternative :
    let x : Filter := (empty.perform (.vacant "a")).filter
    let y : Filter := (x.perform (.vacant "b")).filter
    let z : Filter := ⟨[("$or", .array (vacancies "a")),
      ("$and", .array [.document [("$or", .array (vacancies "b"))]])]⟩
    x.Orderly ∧ ¬ IsClauseKey "b" ∧
      (∃ truth, y.accepts truth ≠ (x.accepts truth && isVacant truth "b")) ∧
      ∀ truth, z.accepts truth = (x.accepts truth && isVacant truth "b") := by
  intro x y z
  have hx : x.Orderly := .perform _ _ .empty (by decide) (by simp)
  have ha : ¬ IsClauseKey "a" := by decide
  have hb : ¬ IsClauseKey "b" := by decide
  refine ⟨hx, hb, ⟨fun atom => atom.1 == "a", by decide⟩, fun truth => ?_⟩
  have hor {field : String} (h : ¬ IsClauseKey field) :
      entryAccepts truth ("$or", .array (vacancies field)) = isVacant truth field := by
    rw [← any_vacancies h, ← Function.id_comp (Value.accepts truth), ← List.any_map]
    exact entryAccepts_clause truth .or _
  have hand (v : Value) : entryAccepts truth ("$and", .array [v]) = v.accepts truth :=
    (entryAccepts_clause truth .and [v]).trans (Bool.and_true _)
  have hz : z.accepts truth = (isVacant truth "a" && isVacant truth "b") := by
    simp [z, accepts_eq_all, hor ha, hand, Value.accepts, entriesAccept_eq_all, hor hb]
  have hxa : x.accepts truth = isVacant truth "a" := by
    have hd : x.document = [("$or", .array (vacancies "a"))] := rfl
    simp [accepts_eq_all, hd, hor ha]
  rw [hz, hxa]

end Filter
end DocFilter
