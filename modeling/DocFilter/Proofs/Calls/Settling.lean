import DocFilter.Proofs.Calls.Reorder
import Mathlib.Data.List.DropRight

/-! What a field holds after a run of constraints is a law on the values that the run gave it. The
last of them decides. A value that is neither a document nor an array stands alone. Arrays are
joined as far back as nothing but arrays came, and documents as far back as nothing but documents
came, each of their keys by this same law on the values that they have for it. The main statement is
that a run obeys the law; since the law leaves one value only, nothing else about the run matters. -/

namespace DocFilter

/-- The values of one kind at the end, back to the last one of another kind. -/
def endRun (k : Kind) (vs : List Value) : List Value := vs.rtakeWhile fun v => v.kind = k

def valuesAt (k : String) (ds : List Document) : List Value :=
  ds.filterMap fun d => Document.get? d k

/-- The law: the values that a place was given, in order, and the one that it holds then. -/
inductive Settles : List Value → Value → Prop where
  | bare (vs : List Value) (v : Value) (last : vs.getLast? = some v) (ho : v.kind ≠ .object)
      (ha : v.kind ≠ .array) : Settles vs v
  | arrays (vs : List Value) (ys : List Value) (last : vs.getLast? = some (.array ys))
      (xss : List (List Value)) (run : endRun .array vs = xss.map .array) :
      Settles vs (.array xss.flatten)
  | documents (vs : List Value) (e : Document) (last : vs.getLast? = some (.document e))
      (ds : List Document) (run : endRun .object vs = ds.map .document) (m : Document)
      (keys : Document.keys m = (ds.flatMap Document.keys).eraseDups)
      (values : ∀ k v, Document.get? m k = some v → Settles (valuesAt k ds) v) :
      Settles vs (.document m)

theorem endRun_concat {k : Kind} {w : Value} (vs : List Value) (h : w.kind = k) :
    endRun k (vs ++ [w]) = endRun k vs ++ [w] :=
  List.rtakeWhile_concat_pos _ _ w (by simpa using h)

theorem endRun_concat_array {vs : List Value} (xss : List (List Value)) (ys : List Value)
    (h : endRun .array vs = xss.map .array) :
    endRun .array (vs ++ [.array ys]) = (xss ++ [ys]).map .array := by
  rw [endRun_concat vs (Value.kind_array ys), h, List.map_append]
  rfl

theorem endRun_concat_document {vs : List Value} (ds : List Document) (e : Document)
    (h : endRun .object vs = ds.map .document) :
    endRun .object (vs ++ [.document e]) = (ds ++ [e]).map .document := by
  rw [endRun_concat vs (Value.kind_document e), h, List.map_append]
  rfl

theorem endRun_eq_nil {k : Kind} {v : Value} {vs : List Value} (h : vs.getLast? = some v)
    (hk : v.kind ≠ k) : endRun k vs = [] := by
  obtain ⟨us, rfl⟩ := List.getLast?_eq_some_iff.1 h
  exact List.rtakeWhile_concat_neg _ _ v (by simpa using hk)

theorem endRun_eq_self {k : Kind} {vs : List Value} (h : ∀ v ∈ vs, v.kind = k) :
    endRun k vs = vs :=
  List.rtakeWhile_eq_self_iff.2 fun v hv => by simpa using h v hv

theorem eraseDups_eq_self {l : List String} (h : l.Nodup) : l.eraseDups = l := by
  induction l with
  | nil => rfl
  | cons a l ih =>
    obtain ⟨ha, hl⟩ := List.nodup_cons.1 h
    have hf : l.filter (fun b => !b == a) = l := by
      apply List.filter_eq_self.2
      intro b hb
      simpa using ne_of_mem_of_not_mem hb ha
    rw [List.eraseDups_cons, hf, ih hl]

theorem nodup_eraseDups (l : List String) : l.eraseDups.Nodup := by
  induction l using List.reverseRecOn with
  | nil => exact List.nodup_nil
  | append_singleton l a ih =>
    rw [List.eraseDups_append]
    by_cases ha : a ∈ l
    · simpa [List.removeAll, ha] using ih
    · have hr : [a].removeAll l = [a] := by simp [List.removeAll, ha]
      rw [hr, eraseDups_eq_self (List.nodup_singleton a)]
      refine ih.append (List.nodup_singleton a) ?_
      simpa using fun h => ha (List.mem_eraseDups.1 h)

/-- New keys come after the ones that have appeared before. -/
theorem eraseDups_append_of_nodup (l : List String) {r : List String} (h : r.Nodup) :
    (l ++ r).eraseDups = l.eraseDups ++ r.filter (· ∉ l.eraseDups) := by
  have hr : r.removeAll l = r.filter (· ∉ l.eraseDups) := by
    apply List.filter_congr
    intro k _
    simp
  rw [List.eraseDups_append, hr, eraseDups_eq_self (h.filter _)]

theorem valuesAt_concat_of_some {k : String} {e : Document} {v : Value} (ds : List Document)
    (h : Document.get? e k = some v) : valuesAt k (ds ++ [e]) = valuesAt k ds ++ [v] := by
  simp [valuesAt, h]

theorem valuesAt_concat_of_none {k : String} {e : Document} (ds : List Document)
    (h : Document.get? e k = none) : valuesAt k (ds ++ [e]) = valuesAt k ds := by
  simp [valuesAt, h]

theorem valuesAt_eq_nil {k : String} {ds : List Document} (h : k ∉ ds.flatMap Document.keys) :
    valuesAt k ds = [] := by
  rw [valuesAt, List.filterMap_eq_nil_iff]
  intro d hd
  rw [Document.get?_eq_none_iff]
  exact fun hk => h (List.mem_flatMap.2 ⟨d, hd, hk⟩)

namespace Settles

variable {vs : List Value} {v w : Value}

theorem exists_last (h : Settles vs v) : ∃ u, vs.getLast? = some u ∧ u.kind = v.kind := by
  cases h with
  | bare vs v last ho ha => exact ⟨v, last, rfl⟩
  | arrays vs ys last xss run => exact ⟨_, last, rfl⟩
  | documents vs e last ds run m keys values => exact ⟨_, last, rfl⟩

theorem endRun_eq_nil (h : Settles vs v) {k : Kind} (hk : v.kind ≠ k) : endRun k vs = [] := by
  obtain ⟨u, hlast, hu⟩ := h.exists_last
  exact DocFilter.endRun_eq_nil hlast (by rwa [hu])

theorem kind_eq (hv : Settles vs v) (hw : Settles vs w) : v.kind = w.kind := by
  obtain ⟨u, hu, huv⟩ := hv.exists_last
  obtain ⟨u', hu', huw⟩ := hw.exists_last
  obtain rfl := Option.some.inj (hu.symm.trans hu')
  exact huv.symm.trans huw

theorem of_array {xs : List Value} (h : Settles vs (.array xs)) :
    ∃ xss : List (List Value), endRun .array vs = xss.map .array ∧ xs = xss.flatten := by
  cases h with
  | bare vs v last ho ha => exact absurd rfl ha
  | arrays vs ys last xss run => exact ⟨xss, run, rfl⟩

theorem of_document {m : Document} (h : Settles vs (.document m)) :
    ∃ ds : List Document, endRun .object vs = ds.map .document ∧
      Document.keys m = (ds.flatMap Document.keys).eraseDups ∧
      ∀ k v, Document.get? m k = some v → Settles (valuesAt k ds) v := by
  cases h with
  | bare vs v last ho ha => exact absurd rfl ho
  | documents vs e last ds run m keys values => exact ⟨ds, run, keys, values⟩

theorem of_bare (h : Settles vs v) (ho : v.kind ≠ .object) (ha : v.kind ≠ .array) :
    vs.getLast? = some v := by
  cases h with
  | bare vs v last => exact last
  | arrays => exact absurd rfl ha
  | documents => exact absurd rfl ho

theorem unique (hv : Settles vs v) (hw : Settles vs w) : v = w := by
  induction hv generalizing w with
  | bare vs v last ho ha =>
    have hk := (Settles.bare vs v last ho ha).kind_eq hw
    have hlast := hw.of_bare (hk ▸ ho) (hk ▸ ha)
    exact Option.some.inj (last.symm.trans hlast)
  | arrays vs ys last xss run =>
    obtain ⟨xs, rfl⟩ := Value.eq_array_of_kind ((Settles.arrays vs ys last xss run).kind_eq hw).symm
    obtain ⟨xss', run', rfl⟩ := hw.of_array
    have hxss : xss = xss' :=
      List.map_injective_iff.2 (fun _ _ => Value.array.inj) (run.symm.trans run')
    rw [hxss]
  | documents vs e last ds run m keys values ih =>
    have hk := (Settles.documents vs e last ds run m keys values).kind_eq hw
    obtain ⟨m', rfl⟩ := Value.eq_document_of_kind hk.symm
    obtain ⟨ds', run', keys', values'⟩ := hw.of_document
    obtain rfl : ds = ds' :=
      List.map_injective_iff.2 (fun _ _ => Value.document.inj) (run.symm.trans run')
    have hkeys : Document.keys m = Document.keys m' := keys.trans keys'.symm
    have hnodup : (Document.keys m).Nodup := keys ▸ nodup_eraseDups _
    refine congrArg Value.document (Document.ext hnodup hkeys fun k => ?_)
    cases hg : Document.get? m k with
    | none =>
      rw [Document.get?_eq_none_iff, hkeys] at hg
      exact ((Document.get?_eq_none_iff m' k).2 hg).symm
    | some v =>
      have hmem : k ∈ Document.keys m' := by
        rw [← hkeys]
        exact List.mem_map_of_mem (Document.mem_of_get? hg)
      cases hg' : Document.get? m' k with
      | none => exact absurd hmem ((Document.get?_eq_none_iff m' k).1 hg')
      | some v' => rw [ih k v hg (values' k v' hg')]

/-- A value of another kind than the last one puts an end to what was there. -/
theorem concat_of_end (hw : w.Distinct)
    (h : w.kind = .object ∨ w.kind = .array → endRun w.kind vs = []) : Settles (vs ++ [w]) w := by
  induction w using Value.induction_on_children generalizing vs with
  | step w ih =>
    have hlast : (vs ++ [w]).getLast? = some w := List.getLast?_concat
    by_cases ha : w.kind = .array
    · obtain ⟨ys, rfl⟩ := Value.eq_array_of_kind ha
      have hrun : endRun .array (vs ++ [.array ys]) = [ys].map .array :=
        endRun_concat_array [] ys (h (Or.inr rfl))
      simpa using Settles.arrays _ ys hlast [ys] hrun
    · by_cases ho : w.kind = .object
      · obtain ⟨e, rfl⟩ := Value.eq_document_of_kind ho
        have hrun : endRun .object (vs ++ [.document e]) = [e].map .document :=
          endRun_concat_document [] e (h (Or.inl rfl))
        refine .documents _ e hlast [e] hrun e ?_ fun k v hv => ?_
        · rw [List.flatMap_singleton, eraseDups_eq_self hw.keys]
        · have hgiven : valuesAt k [e] = [] ++ [v] := valuesAt_concat_of_some [] hv
          rw [hgiven]
          exact ih v (Value.mem_children_of_get? hv) (hw.get? hv) fun _ => rfl
      · exact .bare _ w hlast ho ha

theorem concat (hv : Settles vs v) (hw : w.Distinct) : Settles (vs ++ [w]) (w.mergeInto v) := by
  induction w using Value.induction_on_children generalizing vs v with
  | step w ih =>
    by_cases hsame : SameContainer v w
    · rcases hsame with ⟨hvk, hwk⟩ | ⟨hvk, hwk⟩
      · obtain ⟨m, rfl⟩ := Value.eq_document_of_kind hvk
        obtain ⟨e, rfl⟩ := Value.eq_document_of_kind hwk
        obtain ⟨ds, run, keys, values⟩ := hv.of_document
        rw [Value.mergeInto_document]
        refine .documents _ e List.getLast?_concat (ds ++ [e]) (endRun_concat_document ds e run) _
          ?_ fun k u hu => ?_
        · rw [List.flatMap_append, List.flatMap_singleton, eraseDups_append_of_nodup _ hw.keys,
            Document.keys_merge m e hw.keys, keys]
        · cases he : Document.get? e k with
          | none =>
            rw [Document.get?_merge_of_none m hw.keys he] at hu
            rw [valuesAt_concat_of_none ds he]
            exact values k u hu
          | some x =>
            rw [Document.get?_merge_of_some m hw.keys he] at hu
            obtain rfl := Option.some.inj hu
            rw [valuesAt_concat_of_some ds he]
            cases hm : Document.get? m k with
            | some y => exact ih x (Value.mem_children_of_get? he) (values k y hm) (hw.get? he)
            | none =>
              -- the key is new, so no document had a value for it
              have hk : k ∉ ds.flatMap Document.keys := by
                rwa [← List.mem_eraseDups, ← keys, ← Document.get?_eq_none_iff]
              rw [valuesAt_eq_nil hk]
              exact concat_of_end (hw.get? he) fun _ => rfl
      · obtain ⟨xs, rfl⟩ := Value.eq_array_of_kind hvk
        obtain ⟨ys, rfl⟩ := Value.eq_array_of_kind hwk
        obtain ⟨xss, run, rfl⟩ := hv.of_array
        simpa using Settles.arrays _ ys List.getLast?_concat (xss ++ [ys])
          (endRun_concat_array xss ys run)
    · rw [Value.mergeInto_of_not_sameContainer hsame]
      refine concat_of_end hw fun hk => hv.endRun_eq_nil fun hvk => hsame ?_
      rcases hk with hk | hk
      · exact Or.inl ⟨hvk.trans hk, hk⟩
      · exact Or.inr ⟨hvk.trans hk, hk⟩

theorem append (hv : Settles vs v) {ws : List Value} (hws : ∀ w ∈ ws, w.Distinct) :
    Settles (vs ++ ws) (ws.foldl (fun stored w => w.mergeInto stored) v) := by
  induction ws generalizing vs v with
  | nil => simpa using hv
  | cons w ws ih =>
    obtain ⟨hw, hws⟩ := List.forall_mem_cons.1 hws
    simpa using ih (hv.concat hw) hws

end Settles

def history (field : String) (cs : List (String × Value)) : List Value :=
  (cs.filter fun c => c.1 = field).map Prod.snd

namespace Filter

theorem toValue_putAll (f : Filter) (cs : List (String × Value)) :
    (f.putAll cs).toValue =
      (cs.map fun c => Value.document [c]).foldl (fun stored w => w.mergeInto stored) f.toValue := by
  induction cs generalizing f with
  | nil => rfl
  | cons c cs ih => rw [putAll_cons, ih, toValue_perform_put, List.map_cons, List.foldl_cons]

/-- The run as a whole obeys the law, each constraint being a document with one key. -/
theorem settles_putAll {cs : List (String × Value)} (hcs : ∀ c ∈ cs, c.2.Distinct) :
    Settles (([] :: cs.map fun c => [c]).map .document) (empty.putAll cs).toValue := by
  have hempty : Settles ([] ++ [.document []]) empty.toValue :=
    Settles.concat_of_end (by simp) fun _ => rfl
  have hws : ∀ w ∈ cs.map fun c => Value.document [c], w.Distinct :=
    List.forall_mem_map.2 fun c hc => (distinct_singleton_iff c).2 (hcs c hc)
  rw [toValue_putAll, List.map_cons, List.map_map]
  exact hempty.append hws

theorem valuesAt_constraints (field : String) (cs : List (String × Value)) :
    valuesAt field (cs.map fun c => [c]) = history field cs := by
  induction cs with
  | nil => rfl
  | cons c cs ih =>
    obtain ⟨k, v⟩ := c
    by_cases hk : k = field <;> simpa [valuesAt, history, Document.get?, hk] using ih

/-- After a run of constraints on an empty filter, a field that they name holds the one value that
the law leaves of the values given to it. -/
theorem get?_putAll_settles (cs : List (String × Value)) (hcs : ∀ c ∈ cs, c.2.Distinct)
    (field : String) (h : history field cs ≠ []) :
    ∃ v, Document.get? (empty.putAll cs).document field = some v ∧
      ∀ w, Settles (history field cs) w ↔ w = v := by
  obtain ⟨ds, run, keys, values⟩ := (settles_putAll hcs).of_document
  rw [endRun_eq_self (List.forall_mem_map.2 fun d _ => Value.kind_document d)] at run
  obtain rfl : ([] :: cs.map fun c => [c]) = ds :=
    List.map_injective_iff.2 (fun _ _ => Value.document.inj) run
  have hgiven : valuesAt field ([] :: cs.map fun c => [c]) = history field cs :=
    valuesAt_constraints field cs
  rw [← hgiven] at h ⊢
  cases hv : Document.get? (empty.putAll cs).document field with
  | none =>
    rw [Document.get?_eq_none_iff, keys, List.mem_eraseDups] at hv
    exact absurd (valuesAt_eq_nil hv) h
  | some v =>
    have hsettles := values field v hv
    refine ⟨v, rfl, fun w => ⟨fun hw => hw.unique hsettles, ?_⟩⟩
    rintro rfl
    exact hsettles

/-- A number comes between the documents, so the first of them is forgotten; the other two are
joined, and under `$in` so are their arrays. -/
theorem get?_putAll_settles_interrupted :
    let first : Value := .document [("$ne", .int32 0)]
    let second : Value := .document [("$gt", .int32 1), ("$in", .array [.int32 4])]
    let third : Value := .document [("$in", .array [.int32 5]), ("$gt", .int32 2)]
    let cs : List (String × Value) := [("age", first), ("name", .string "a"), ("age", .int32 7),
      ("age", second), ("name", .array []), ("age", third)]
    let stored : Value := .document [("$gt", .int32 2), ("$in", .array [.int32 4, .int32 5])]
    (∀ c ∈ cs, c.2.Distinct) ∧ history "age" cs = [first, .int32 7, second, third] ∧
      Document.get? (empty.putAll cs).document "age" = some stored ∧
      Settles [first, .int32 7, second, third] stored ∧
      ∀ w, Settles [first, .int32 7, second, third] w → w = stored := by
  intro first second third cs stored
  have hn (n : Int32) : (Value.int32 n).Distinct := Value.distinct_of_leaf rfl rfl
  have hs (t : String) : (Value.string t).Distinct := Value.distinct_of_leaf rfl rfl
  have hcs : ∀ c ∈ cs, c.2.Distinct := by simp [cs, first, second, third, hn, hs]
  have hstored : Document.get? (empty.putAll cs).document "age" = some stored := rfl
  have hhistory : history "age" cs = [first, .int32 7, second, third] := rfl
  obtain ⟨v, hv, hlaw⟩ := get?_putAll_settles cs hcs "age" (by simp [hhistory])
  obtain rfl := Option.some.inj (hstored.symm.trans hv)
  exact ⟨hcs, hhistory, hstored, (hlaw stored).2 rfl, fun w => (hlaw w).1⟩

end Filter
end DocFilter
