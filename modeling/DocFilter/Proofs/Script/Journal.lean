import DocFilter.Proofs.Script.History
import DocFilter.Proofs.Calls.Keys

/-! What a run records. Calls that bring values of their own, or negations of these, record for each
of them in order whether its field was new, and before that how it was negated. So the journal of a
run of such calls follows the filter value by value, and the fields that were new are just those that
the run has added to the keys of the filter. -/

namespace DocFilter

/-- What can be seen of an event. -/
structure JournalLine where
  /-- The arrival of a value is a detail, and the way in which one is negated is not. -/
  detail : Bool
  message : String
  field : String
  deriving DecidableEq

def Event.line (e : Event) : JournalLine := ⟨e.isDetail, e.message, e.field⟩

def insertedFields (events : List Event) : List String :=
  (events.filter (·.message = "inserting key")).map Event.field

theorem insertedFields_append (es fs : List Event) :
    insertedFields (es ++ fs) = insertedFields es ++ insertedFields fs := by
  simp [insertedFields]

namespace Value

def negationMessage (v : Value) : String :=
  if v.IsLoneNot then "unwrapping $not"
  else if v.IsFragment then "negating with $not"
  else "negating with $ne"

theorem message_negating (field : String) (v : Value) :
    (Event.negating field v.negation.1).message = v.negationMessage := by
  rcases v.isLoneNot_or_wrap_or_differ with hl | ⟨hf, hl⟩ | hf
  · rw [(inClass_iff v .unwrap).1 hl, negationMessage, if_pos hl]
    rfl
  · rw [(inClass_iff v .wrap).1 ⟨hf, hl⟩, negationMessage, if_neg hl, if_pos hf]
    rfl
  · rw [(inClass_iff v .differ).1 hf, negationMessage, if_neg (mt IsLoneNot.isFragment hf),
      if_neg hf]
    rfl

end Value

/-- A value that is brought to a field, and the value that it is the negation of, if it is one. -/
structure Arrival where
  field : String
  value : Value
  negated : Option Value

namespace Arrival

def entry (a : Arrival) : String × Value := (a.field, a.value)

def constraint (a : Arrival) : Constraint :=
  ⟨a.field, a.value, a.negated.map fun v => v.negation.1⟩

def lines (a : Arrival) (keys : List String) : List JournalLine :=
  a.negated.toList.map (fun v => ⟨false, v.negationMessage, a.field⟩) ++
    [⟨true, if a.field ∈ keys then "merging into existing key" else "inserting key", a.field⟩]

end Arrival

namespace Call

/-- Says whether all that a call brings are values of its own and negations of these. -/
def isPlain : Call → Bool
  | .put .. | .compare .. | .extend _ | .merge _ | .negate _ => true
  | _ => false

def arrivals : Call → List Arrival
  | .put field value => [⟨field, value, none⟩]
  | .compare field comparison => [⟨field, comparison.toValue, none⟩]
  | .extend entries => entries.map fun e => ⟨e.1, e.2, none⟩
  | .merge g => g.document.map fun e => ⟨e.1, e.2, none⟩
  | .negate g => g.document.map fun e => ⟨e.1, e.2.negation.2, some e.2⟩
  | _ => []

theorem constraints_of_isPlain {c : Call} (h : c.isPlain = true) :
    c.constraints = .ok (c.arrivals.map Arrival.constraint) ∧ c.aside = .ok [] := by
  cases c with
  | put field value | compare field comparison => exact ⟨rfl, rfl⟩
  | extend x | merge x | negate x =>
    rw [arrivals, List.map_map]
    exact ⟨rfl, rfl⟩
  | _ => cases h

end Call

theorem Arrival.map_line_events (a : Arrival) (d : Document) :
    (a.constraint.events d).map Event.line = a.lines (Document.keys d) := by
  have harrival : (if d.contains a.field then Event.merging a.field else .inserting a.field).line =
      ⟨true, if a.field ∈ Document.keys d then "merging into existing key" else "inserting key",
        a.field⟩ := by
    simp only [Document.contains_iff]
    split_ifs <;> rfl
  cases hn : a.negated with
  | none =>
    rw [Constraint.events, constraint, hn, lines, hn]
    exact congrArg (fun l => [l]) harrival
  | some v =>
    have hnegating : (Event.negating a.field v.negation.1).line =
        ⟨false, v.negationMessage, a.field⟩ := by
      rw [Event.line, v.message_negating]
      rfl
    rw [Constraint.events, constraint, hn, lines, hn]
    exact congrArg₂ (fun l l' => [l, l']) hnegating harrival

theorem insertedFields_events (c : Constraint) (d : Document) :
    insertedFields (c.events d) = if c.field ∈ Document.keys d then [] else [c.field] := by
  have harrival : insertedFields
      [if d.contains c.field then .merging c.field else .inserting c.field] =
        if c.field ∈ Document.keys d then [] else [c.field] := by
    simp only [Document.contains_iff]
    split_ifs <;> rfl
  have hnegating (n : Negation) (rest : List Event) :
      insertedFields (.negating c.field n :: rest) = insertedFields rest := by
    cases n <;> rfl
  rw [Constraint.events]
  cases c.negation with
  | none => exact harrival
  | some n => exact (hnegating n _).trans harrival

namespace Filter

theorem perform_of_isPlain {c : Call} (h : c.isPlain = true) (f : Filter) :
    (f.perform c).filter = f.addAll (c.arrivals.map Arrival.constraint) ∧
      (f.perform c).events = f.journal (c.arrivals.map Arrival.constraint) := by
  obtain ⟨hconstraints, haside⟩ := Call.constraints_of_isPlain h
  simp [perform, hconstraints, haside]

theorem putAll_entries (f : Filter) (as : List Arrival) :
    f.putAll (as.map Arrival.entry) = f.addAll (as.map Arrival.constraint) := by
  induction as generalizing f with
  | nil => rfl
  | cons a rest ih => exact ih _

theorem map_line_journal (f : Filter) (as : List Arrival) :
    (f.journal (as.map Arrival.constraint)).map Event.line =
      as.zipIdx.flatMap fun a =>
        a.1.lines (Document.keys (f.putAll ((as.take a.2).map Arrival.entry)).document) := by
  induction as generalizing f with
  | nil => rfl
  | cons a rest ih =>
    rw [List.map_cons, journal, List.map_append, Arrival.map_line_events, ih, List.zipIdx_cons',
      List.flatMap_cons, List.flatMap_map]
    rfl

theorem keys_add_events (f : Filter) (c : Constraint) :
    Document.keys (f.add c.field c.value).document =
      Document.keys f.document ++ insertedFields (c.events f.document) := by
  rw [add, Document.keys_add, insertedFields_events]
  split_ifs <;> simp

/-- The keys of the filter can be told from the journal. -/
theorem keys_addAll (f : Filter) (cs : List Constraint) :
    Document.keys (f.addAll cs).document =
      Document.keys f.document ++ insertedFields (f.journal cs) := by
  induction cs generalizing f with
  | nil => simp [addAll, journal, insertedFields]
  | cons c rest ih =>
    rw [addAll, ih, keys_add_events, journal, insertedFields_append, List.append_assoc]

end Filter

theorem runSteps_of_isPlain (names : Names) (f : Filter) {cs : List Call}
    (h : ∀ c ∈ cs, c.isPlain = true) :
    runSteps names (cs.map .call) f =
      (f.addAll ((cs.flatMap Call.arrivals).map Arrival.constraint),
        f.journal ((cs.flatMap Call.arrivals).map Arrival.constraint)) := by
  induction cs generalizing f with
  | nil =>
    rw [List.map_nil, runSteps]
    rfl
  | cons c rest ih =>
    obtain ⟨hc, hrest⟩ := List.forall_mem_cons.1 h
    obtain ⟨hfilter, hevents⟩ := f.perform_of_isPlain hc
    have hstep : ((Step.call c).run names f).filter = (f.perform c).filter ∧
        ((Step.call c).run names f).events = (f.perform c).events := by
      rw [Step.run]
      exact ⟨rfl, rfl⟩
    rw [List.map_cons, runSteps, hstep.1, hstep.2, hfilter, hevents, ih _ hrest,
      List.flatMap_cons, List.map_append, Filter.addAll_append, Filter.journal_append]

/-- A run of calls that bring values and negations leaves what these leave if they are put one by one.
For each of them, in order, the journal has the line that says how it was negated, if it was, and then
the one that says whether its field was a key of the filter at that moment. The keys of the filter
after the run are those before it, followed by the fields that are recorded as new. -/
theorem runSteps_journal (names : Names) (f : Filter) (cs : List Call)
    (h : ∀ c ∈ cs, c.isPlain = true) :
    let run := runSteps names (cs.map .call) f
    let as := cs.flatMap Call.arrivals
    let moment (i : Nat) : Filter := f.putAll ((as.take i).map Arrival.entry)
    run.1 = moment as.length ∧
      run.2.map Event.line =
        as.zipIdx.flatMap (fun a => a.1.lines (Document.keys (moment a.2).document)) ∧
      Document.keys run.1.document = Document.keys f.document ++ insertedFields run.2 := by
  intro run as moment
  have hrun : run = (f.addAll (as.map Arrival.constraint), f.journal (as.map Arrival.constraint)) :=
    runSteps_of_isPlain names f h
  rw [hrun]
  refine ⟨?_, f.map_line_journal as, f.keys_addAll _⟩
  rw [← Filter.putAll_entries]
  exact congrArg (fun bs => f.putAll (bs.map Arrival.entry)) (List.take_length).symm

/-- One call names a field twice, a field is negated in each of the three ways, and the negations
alternate with a merge and a comparison. -/
theorem runSteps_journal_alternating :
    let f : Filter := ⟨[("age", .document [("$gt", .int32 5)])]⟩
    let denied : Filter := ⟨[("age", .document [("$lt", .int32 3)]), ("name", .string "x"),
      ("tags", .document [("$not", .document [("$all", .array [])])])]⟩
    let cs : List Call := [.extend [("tags", .null), ("tags", .array [])], .negate denied,
      .merge ⟨[("city", .null), ("age", .int32 7)]⟩, .compare "zip" (.relation .ne .null),
      .put "zip" .null]
    let run := runSteps noNames (cs.map .call) f
    (∀ c ∈ cs, c.isPlain = true) ∧
      run.2.map Event.line =
        [⟨true, "inserting key", "tags"⟩, ⟨true, "merging into existing key", "tags"⟩,
          ⟨false, "negating with $not", "age"⟩, ⟨true, "merging into existing key", "age"⟩,
          ⟨false, "negating with $ne", "name"⟩, ⟨true, "inserting key", "name"⟩,
          ⟨false, "unwrapping $not", "tags"⟩, ⟨true, "merging into existing key", "tags"⟩,
          ⟨true, "inserting key", "city"⟩, ⟨true, "merging into existing key", "age"⟩,
          ⟨true, "inserting key", "zip"⟩, ⟨true, "merging into existing key", "zip"⟩] ∧
      Document.keys run.1.document = ["age"] ++ ["tags", "name", "city", "zip"] := by
  intro f denied cs run
  have h : ∀ c ∈ cs, c.isPlain = true := by simp [cs, Call.isPlain]
  obtain ⟨-, hlines, hkeys⟩ := runSteps_journal noNames f cs h
  exact ⟨h, hlines, hkeys⟩

end DocFilter
