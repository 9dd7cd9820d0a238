import DocFilter.Proofs.Calls.Funnel
import DocFilter.Proofs.Merge.Path
import DocFilter.Proofs.Negation.Classes
import DocFilter.Proofs.Script.History

/-! The form of the values that negations leave. A value is sound when it is no document, or a
fragment whose `$not`, if it has one, stands over another sound fragment that is no lone `$not`.
Merging and negating keep this, and the calls make no other fragments, so in a script that is given
sound values every filter holds sound values at any time. -/

namespace DocFilter
namespace Value

/-- No `$not` stands over a bare value or right over a lone `$not`, operators are not mixed with other
keys, and no key stands twice in a document. -/
inductive Sound : Value → Prop where
  | bare (v : Value) (h : v.kind ≠ .object) : Sound v
  | fragment (d : Document) (keys : (Document.keys d).Nodup) (operators : (document d).IsFragment)
      (kind : ∀ v, Document.negated? d = some v → v.kind = .object)
      (lone : ∀ v, Document.negated? d = some v → ¬ v.IsLoneNot)
      (beneath : ∀ v, Document.negated? d = some v → Sound v) : Sound (document d)

theorem sound_document_iff (d : Document) :
    (document d).Sound ↔ (Document.keys d).Nodup ∧ (document d).IsFragment ∧
      ∀ v, Document.negated? d = some v → v.kind = .object ∧ ¬ v.IsLoneNot ∧ v.Sound := by
  constructor
  · intro h
    cases h with
    | bare _ hk => exact absurd rfl hk
    | fragment _ hd hf hkind hlone hbeneath =>
      exact ⟨hd, hf, fun v hv => ⟨hkind v hv, hlone v hv, hbeneath v hv⟩⟩
  · rintro ⟨hd, hf, hnot⟩
    exact .fragment d hd hf (fun v hv => (hnot v hv).1) (fun v hv => (hnot v hv).2.1)
      fun v hv => (hnot v hv).2.2

theorem sound_string (text : String) : (string text).Sound :=
  .bare _ (by simp [Value.kind])

theorem sound_array (items : List Value) : (array items).Sound :=
  .bare _ (by simp)

theorem sound_of_negated_none {d : Document} (hd : (Document.keys d).Nodup)
    (hf : (document d).IsFragment) (hn : Document.negated? d = none) : (document d).Sound := by
  refine (sound_document_iff d).2 ⟨hd, hf, fun v hv => ?_⟩
  rw [hn] at hv
  cases hv

theorem sound_of_negated {d : Document} {v : Value} (hd : (Document.keys d).Nodup)
    (hf : (document d).IsFragment) (hn : Document.negated? d = some v) (hk : v.kind = .object)
    (hl : ¬ v.IsLoneNot) (hv : v.Sound) : (document d).Sound := by
  refine (sound_document_iff d).2 ⟨hd, hf, fun w hw => ?_⟩
  obtain rfl := Option.some.inj (hn.symm.trans hw)
  exact ⟨hk, hl, hv⟩

theorem sound_fragment {k : Keyword} (hk : k ≠ .not) (v : Value) :
    (DocFilter.fragment k v).Sound := by
  refine sound_of_negated_none (by simp) (isFragment_fragment k v) ?_
  rw [Document.negated?, Document.get?_eq_none_iff]
  simpa using (text_ne_not hk).symm

theorem sound_not {v : Value} (hk : v.kind = .object) (hl : ¬ v.IsLoneNot) (hv : v.Sound) :
    (DocFilter.fragment .not v).Sound :=
  sound_of_negated (by simp) (isFragment_fragment .not v) (Document.negated?_not v) hk hl hv

theorem Sound.mergeInto {v w : Value} (hv : v.Sound) (hw : w.Sound) : (w.mergeInto v).Sound := by
  -- by induction on what arrives, since the fragment that it meets may be any sound one
  induction hw generalizing v with
  | bare w hk =>
    apply Sound.bare
    rwa [kind_mergeInto]
  | fragment e he hef hkind hlone hbeneath ih =>
    by_cases hvk : v.kind = .object
    · obtain ⟨d, rfl⟩ := eq_document_of_kind hvk
      obtain ⟨hd, hdf, hdnot⟩ := (sound_document_iff d).1 hv
      rw [isFragment_document_iff] at hdf hef
      rw [mergeInto_document, sound_document_iff, isFragment_document_iff]
      refine ⟨Document.nodup_keys_merge hd he, Document.isOperatorFragment_merge hdf hef he, ?_⟩
      -- the two `$not` meet only if both values have one
      intro u hu
      cases hen : Document.negated? e with
      | none =>
        rw [Document.negated?, Document.get?_merge_of_none d he hen] at hu
        exact hdnot u hu
      | some w =>
        rw [Document.negated?, Document.get?_merge_of_some d he hen] at hu
        obtain rfl := Option.some.inj hu
        cases hdn : Document.get? d Keyword.not.text with
        | none => exact ⟨hkind w hen, hlone w hen, hbeneath w hen⟩
        | some u =>
          obtain ⟨-, -, hus⟩ := hdnot u hdn
          obtain ⟨f, rfl⟩ := eq_document_of_kind (hkind w hen)
          obtain ⟨hf, hff, -⟩ := (sound_document_iff f).1 (hbeneath _ hen)
          refine ⟨?_, not_isLoneNot_mergeInto u hff (hlone _ hen) hf, ih _ hen hus⟩
          rw [arrive, kind_mergeInto]
          rfl
    · rw [document_mergeInto_of_kind e hvk]
      exact .fragment e he hef hkind hlone hbeneath

theorem Sound.negation {v : Value} (hv : v.Sound) : v.negation.2.Sound := by
  cases hv with
  | bare v hk =>
    rw [negation_of_differ (not_isFragment_of_kind hk)]
    exact sound_fragment (by decide) v
  | fragment d hd hf hkind hlone hbeneath =>
    by_cases hl : (document d).IsLoneNot
    · obtain ⟨w, hw⟩ := hl
      obtain rfl := document.inj hw
      change (DocFilter.fragment .not w).negation.2.Sound
      rw [negation_fragment_not]
      exact hbeneath w (Document.negated?_not w)
    · rw [negation_of_wrap hf hl]
      exact sound_not rfl hl (.fragment d hd hf hkind hlone hbeneath)

/-- However many `$not` lead to a value inside a sound one: if it is a document, it is a fragment,
and under a `$not` it is a document and no lone `$not`. -/
theorem Sound.at_nots {v w : Value} (hv : v.Sound) {n : Nat}
    (hw : v.at? (List.replicate n Keyword.not.text) = some w) :
    (w.kind = .object → w.IsFragment) ∧ (0 < n → w.kind = .object ∧ ¬ w.IsLoneNot) := by
  induction n generalizing v with
  | zero =>
    obtain rfl := Option.some.inj hw
    refine ⟨fun hk => ?_, fun h => absurd h (Nat.lt_irrefl 0)⟩
    obtain ⟨d, rfl⟩ := eq_document_of_kind hk
    exact ((sound_document_iff d).1 hv).2.1
  | succ n ih =>
    rw [List.replicate_succ] at hw
    cases hc : v.child? Keyword.not.text with
    | none =>
      rw [at?_cons_of_none hc] at hw
      cases hw
    | some u =>
      rw [at?_cons_of_some hc] at hw
      cases v with
      | document d =>
        obtain ⟨hk, hl, hu⟩ := ((sound_document_iff d).1 hv).2.2 u hc
        obtain ⟨hf, hrest⟩ := ih hu hw
        refine ⟨hf, fun _ => ?_⟩
        rcases Nat.eq_zero_or_pos n with rfl | hn
        · obtain rfl := Option.some.inj hw
          exact ⟨hk, hl⟩
        · exact hrest hn
      | _ => cases hc

end Value

namespace Call

def handed : Call → List Value
  | .put _ value => [value]
  | .extend entries => entries.map Prod.snd
  | _ => []

end Call

/-- The values that come from the caller as they are: those handed to a call, and those in a document
that is taken for a filter. -/
def Deed.handed : Deed → List Value
  | .call _ c => c.handed
  | .adopt d => d.map Prod.snd

namespace Filter

def Sound (f : Filter) : Prop := ∀ entry ∈ f.document, entry.2.Sound

theorem sound_empty : Sound empty := by
  simp [Sound, empty]

theorem Sound.addAll {f : Filter} {cs : List Constraint} (hf : f.Sound)
    (hcs : ∀ c ∈ cs, c.value.Sound) : (f.addAll cs).Sound :=
  forall_mem_addAll (fun _ _ => Value.Sound.mergeInto) hf hcs

theorem Sound.negations {f : Filter} (hf : f.Sound) :
    ∀ c ∈ Call.negations f, c.value.Sound := by
  intro c hc
  obtain ⟨entry, hentry, rfl⟩ := List.mem_map.1 hc
  exact (hf entry hentry).negation

end Filter

theorem Comparison.sound_toValue (c : Comparison) : c.toValue.Sound := by
  have hk : c.comparator.keyword ≠ .not := by
    cases c.comparator with
    | relation r => cases r <;> decide
    | membership m => cases m <;> decide
  exact Value.sound_fragment hk c.operand

theorem sound_vacantArms (field : String) : ∀ c ∈ vacantArms field, c.value.Sound := by
  have hnull : Value.null.Sound := .bare _ (by decide)
  have hpresent := Value.sound_fragment (k := .present) (by decide) (.bool false)
  simp [vacantArms, hnull, hpresent, Value.sound_string, Value.sound_array]

namespace Call

theorem sound_elemMatch (d : Document) : (fragment .elemMatch (.document d)).Sound :=
  Value.sound_fragment (by decide) _

theorem sound_single {field : String} {value : Value} {negation : Option Negation}
    (h : value.Sound) : ∀ x ∈ [Constraint.mk field value negation], x.value.Sound :=
  List.forall_mem_singleton.2 h

/-- Whatever a call is about, its constraints are sound, if the values that it is handed and the
filters among its arguments are. -/
theorem sound_constraints {c : Call} {cs : List Constraint} (h : c.constraints = .ok cs)
    (hv : ∀ v ∈ c.handed, v.Sound) (hg : ∀ g ∈ c.filters, g.Sound) :
    ∀ x ∈ cs, x.value.Sound := by
  cases c with
  | put field value =>
    cases h
    exact sound_single (hv value (by simp [handed]))
  | compare field comparison =>
    cases h
    exact sound_single comparison.sound_toValue
  | isArray field =>
    cases h
    exact sound_single (Value.sound_string _)
  | script condition =>
    cases h
    exact sound_single (Value.sound_string _)
  | like field pattern insensitive =>
    cases h
    refine sound_single (Value.sound_of_negated_none ?_ ?_ ?_)
    · simp [Keyword.text]
    · exact ⟨_, rfl, by simp, by simp [Value.isOperator_text]⟩
    · rfl
  | noneOf field values =>
    cases h
    have hlone : ¬ (fragment .all (.array values)).IsLoneNot :=
      Value.not_isLoneNot_fragment (by decide) _
    exact sound_single (Value.sound_not rfl hlone (Value.sound_fragment (by decide) _))
  | elements field condition =>
    cases hd : condition.document with
    | ok d =>
      simp only [constraints, hd] at h
      cases h
      exact sound_single (sound_elemMatch d)
    | error e => simp [constraints, hd] at h
  | noElements field condition =>
    cases hd : condition.document with
    | ok d =>
      simp only [constraints, hd] at h
      cases h
      apply Filter.Sound.negations
      exact List.forall_mem_singleton.2 (sound_elemMatch d)
    | error e => simp [constraints, hd] at h
  | vacant field | notVacant field | combine clause filters =>
    cases h
    exact sound_single (Value.sound_array _)
  | negate f =>
    cases h
    exact Filter.Sound.negations (hg f (by simp [filters]))
  | merge f =>
    cases h
    exact List.forall_mem_map.2 fun entry hentry => hg f (by simp [filters]) entry hentry
  | extend entries =>
    cases h
    exact List.forall_mem_map.2 fun entry hentry => hv entry.2 (List.mem_map_of_mem hentry)
  | near spherical field p distance =>
    cases h
    refine sound_single (Value.sound_fragment ?_ _)
    cases spherical <;> decide
  | _ =>
    -- the other calls make a fragment of a fixed keyword
    cases h
    exact sound_single (Value.sound_fragment (by decide) _)

theorem sound_aside {c : Call} {cs : List Constraint} (h : c.aside = .ok cs) :
    ∀ x ∈ cs, x.value.Sound := by
  cases c with
  | vacant field => cases h; exact sound_vacantArms field
  | notVacant field => cases h; exact sound_vacantArms field
  | noElements field condition =>
    cases hd : condition.document with
    | ok d =>
      simp only [aside, hd] at h
      cases h
      exact List.forall_mem_singleton.2 (sound_elemMatch d)
    | error e => simp [aside, hd] at h
  | _ => cases h; simp

theorem sound_asideFilters (c : Call) : ∀ g ∈ c.asideFilters, g.Sound := by
  intro g hg
  cases h : c.aside with
  | ok cs =>
    rw [asideFilters, h] at hg
    obtain ⟨a, ha, rfl⟩ := List.mem_map.1 hg
    exact Filter.sound_empty.addAll (List.forall_mem_singleton.2 (sound_aside h a ha))
  | error e =>
    rw [asideFilters, h] at hg
    cases hg

end Call

/-- One deed: no call and no document that is taken for a filter brings in an unsound value, if it is
handed none. -/
theorem keeps_sound : Keeps Filter.Sound (fun x => ∀ v ∈ x.handed, v.Sound) where
  empty := Filter.sound_empty
  call f c hv hf hg := by
    refine List.forall_mem_append.2 ⟨c.sound_asideFilters, List.forall_mem_singleton.2 ?_⟩
    cases h : c.constraints with
    | ok cs =>
      rw [(Filter.perform_of_ok h f).1]
      exact hf.addAll (Call.sound_constraints h hv hg)
    | error e =>
      rw [(Filter.perform_of_error h f).1]
      exact hf
  adopt d hv := fun entry hentry => hv entry.2 (List.mem_map_of_mem hentry)

/-- In a script that is handed sound values, every filter holds sound values at any time, those
included that are built for an argument at any depth. So no `$not` in any of them stands over a bare
value or right over a lone `$not`, and no operator beside another key. -/
theorem scriptFilters_sound (names : Names) (script : List (String × Step))
    (hn : ∀ name, (names name).Sound)
    (hs : ∀ x ∈ scriptDeeds names script, ∀ v ∈ x.handed, v.Sound) :
    ∀ g ∈ scriptFilters names script, g.Sound ∧
      ∀ entry ∈ g.document, ∀ n w,
        entry.2.at? (List.replicate n Keyword.not.text) = some w →
          (w.kind = .object → w.IsFragment) ∧ (0 < n → w.kind = .object ∧ ¬ w.IsLoneNot) := by
  intro g hg
  have hsound : g.Sound := keeps_sound.script hn hs g hg
  exact ⟨hsound, fun entry hentry n w hw => (hsound entry hentry).at_nots hw⟩

/-- A filter is built on the side and negated into one that holds a `$not` already. Four filters are
there in the course of it, the first and the last of them under the name. -/
theorem scriptFilters_sound_nested :
    let script : List (String × Step) :=
      [("main", .put "age" (.value (.document [("$gt", .int32 5),
        ("$not", .document [("$lt", .int32 3)])]))),
       ("main", .negate (.steps [.members "tags" .noneOf [.value (.string "x")],
        .put "age" (.value (.document [("$gte", .int32 9)]))]))]
    (∀ name, (noNames name).Sound) ∧
      (∀ x ∈ scriptDeeds noNames script, ∀ v ∈ x.handed, v.Sound) ∧
      (∀ g ∈ scriptFilters noNames script, g.Sound) ∧
      (scriptDeeds noNames script).flatMap Deed.filters =
        [⟨[("age", .document [("$gt", .int32 5), ("$not", .document [("$lt", .int32 3)])])]⟩,
          ⟨[("tags", .document [("$not", .document [("$all", .array [.string "x"])])])]⟩,
          ⟨[("tags", .document [("$not", .document [("$all", .array [.string "x"])])]),
            ("age", .document [("$gte", .int32 9)])]⟩,
          ⟨[("age", .document [("$gt", .int32 5),
              ("$not", .document [("$lt", .int32 3), ("$gte", .int32 9)])]),
            ("tags", .document [("$all", .array [.string "x"])])]⟩] := by
  intro script
  have hn : ∀ name, (noNames name).Sound := fun _ => Filter.sound_empty
  have hlt : (fragment .lt (.int32 3)).Sound := Value.sound_fragment (by decide) _
  have hbounds : (Value.document [("$gt", .int32 5), ("$not", fragment .lt (.int32 3))]).Sound :=
    Value.sound_of_negated (by decide) ⟨_, rfl, by decide, by decide⟩ rfl rfl
      (Value.not_isLoneNot_fragment (by decide) _) hlt
  have hgte : (fragment .gte (.int32 9)).Sound := Value.sound_fragment (by decide) _
  have hhanded : (scriptDeeds noNames script).flatMap Deed.handed =
      [.document [("$gt", .int32 5), ("$not", fragment .lt (.int32 3))],
        fragment .gte (.int32 9)] := rfl
  have hs : ∀ x ∈ scriptDeeds noNames script, ∀ v ∈ x.handed, v.Sound := by
    intro x hx v hv
    have hmem : v ∈ (scriptDeeds noNames script).flatMap Deed.handed :=
      List.mem_flatMap.2 ⟨x, hx, hv⟩
    rw [hhanded] at hmem
    rcases List.mem_cons.1 hmem with rfl | hmem
    · exact hbounds
    · obtain rfl := List.mem_singleton.1 hmem
      exact hgte
  exact ⟨hn, hs, fun g hg => (scriptFilters_sound noNames script hn hs g hg).1, rfl⟩

end DocFilter
