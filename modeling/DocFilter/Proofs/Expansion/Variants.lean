import DocFilter.Proofs.Expansion.Rename
import DocFilter.Proofs.Text.Camel

/-! When each field of a struct has a variant of its own. The names of the variants are the joined
words of the names of the fields, and nothing is done about names that are joined to the same word,
to no identifier or to a keyword. For names in small letters, digits and underscores it is said in
terms of the names which ones these are. Only the variants are meant: the name of the module is an
identifier, but it may be a keyword, as `type` is for a struct `Type`. -/

namespace DocFilter

open Source

namespace FieldEnum

/-- The variants are those of the fields in their order, each is a word that can be declared, no two
are the same, and the path that is found for a variant is that of its field. Nothing is said of the
module that they stand in. -/
structure Usable (e : FieldEnum) (fields : List Field) : Prop where
  inOrder : List.Forall₂ (fun f v => v.name = Text.upperCamel f.name.text ∧
    v.path = (rename? f.attributes).getD f.name.text) fields e.variants
  identifiers : ∀ v ∈ e.variants, Text.isIdentifier v.name.toList ∧ v.name ∉ keywords
  distinct : (e.variants.map FieldVariant.name).Nodup
  found : ∀ v ∈ e.variants, e.path? v.name = some v.path

theorem path?_of_mem {e : FieldEnum} (h : (e.variants.map FieldVariant.name).Nodup)
    {v : FieldVariant} (hv : v ∈ e.variants) : e.path? v.name = some v.path := by
  rw [path?]
  generalize e.variants = vs at h hv
  induction vs with
  | nil => cases hv
  | cons w vs ih =>
    obtain ⟨hw, hvs⟩ := List.nodup_cons.1 h
    rcases List.mem_cons.1 hv with rfl | hv
    · simp
    · have hne : w.name ≠ v.name := fun hn => hw (hn ▸ List.mem_map_of_mem hv)
      rw [List.find?_cons_of_neg (by simpa using hne)]
      exact ih hvs hv

end FieldEnum

def FieldVariant.named (f : Field) : FieldVariant :=
  ⟨Text.upperCamel f.name.text, (rename? f.attributes).getD f.name.text⟩

theorem FieldVariant.mapM_ofField_eq_ok {fields : List Field} {vs : List FieldVariant}
    (h : fields.mapM FieldVariant.ofField = .ok vs) :
    ∀ f ∈ fields, Text.isIdentifier (Text.upperCamel f.name.text).toList := by
  induction fields generalizing vs with
  | nil => simp
  | cons f fields ih =>
    rw [List.mapM_cons] at h
    by_cases hf : Text.isIdentifier (Text.upperCamel f.name.text).toList
    · cases hrest : fields.mapM FieldVariant.ofField with
      | ok rest => exact List.forall_mem_cons.2 ⟨hf, ih hrest⟩
      | error cause =>
        rw [hrest, FieldVariant.ofField, variantName_eq hf] at h
        cases h
    · rw [FieldVariant.ofField, variantName, identifier, if_neg hf] at h
      cases h

namespace FieldEnum

theorem ofDeclaration_eq_ok_iff (library : String) (visibility : List String) (name : Name)
    (fields : List Field) (e : FieldEnum) :
    ofDeclaration (.ok library) ⟨visibility, name, .fields fields⟩ = .ok e ↔
      Text.isIdentifier (Text.snake name.written).toList ∧
      (∀ f ∈ fields, Text.isIdentifier (Text.upperCamel f.name.text).toList) ∧
      e = ⟨visibility, Text.snake name.written, fields.map FieldVariant.named, library⟩ := by
  change ofFields _ _ _ = _ ↔ _
  constructor
  · intro h
    by_cases hmodule : Text.isIdentifier (Text.snake name.written).toList
    · cases hvs : fields.mapM FieldVariant.ofField with
      | ok vs =>
        have hfields := FieldVariant.mapM_ofField_eq_ok hvs
        rw [ofFields, identifier, if_pos hmodule, FieldVariant.mapM_ofField fields hfields] at h
        cases h
        exact ⟨hmodule, hfields, rfl⟩
      | error cause =>
        rw [ofFields, identifier, if_pos hmodule, hvs] at h
        cases h
    · rw [ofFields, identifier, if_neg hmodule] at h
      cases h
  · rintro ⟨hmodule, hfields, rfl⟩
    rw [ofFields, identifier, if_pos hmodule, FieldVariant.mapM_ofField fields hfields]
    rfl

theorem usable_named_iff (library : String) (visibility : List String) (module : String)
    (fields : List Field)
    (h : ∀ f ∈ fields, Text.isIdentifier (Text.upperCamel f.name.text).toList) :
    Usable ⟨visibility, module, fields.map FieldVariant.named, library⟩ fields ↔
      (∀ f ∈ fields, Text.upperCamel f.name.text ∉ keywords) ∧
      (fields.map fun f => Text.upperCamel f.name.text).Nodup := by
  have hnames : (fields.map FieldVariant.named).map FieldVariant.name =
      fields.map fun f => Text.upperCamel f.name.text := by
    rw [List.map_map]
    rfl
  constructor
  · rintro ⟨-, hidentifiers, hdistinct, -⟩
    refine ⟨fun f hf => ?_, hnames ▸ hdistinct⟩
    exact (hidentifiers _ (List.mem_map_of_mem hf)).2
  · rintro ⟨hkeywords, hdistinct⟩
    rw [← hnames] at hdistinct
    refine ⟨?_, ?_, hdistinct, fun v hv => path?_of_mem hdistinct hv⟩
    · rw [List.forall₂_map_right_iff, List.forall₂_same]
      exact fun f _ => ⟨rfl, rfl⟩
    · intro v hv
      obtain ⟨f, hf, rfl⟩ := List.mem_map.1 hv
      exact ⟨h f hf, hkeywords f hf⟩

/-- `Self` is the only keyword that begins with a capital. -/
theorem upperCamel_mem_keywords_iff {name : String} (h : Text.Snake name.toList)
    (letter : Text.BeginsWithLetter name) :
    Text.upperCamel name ∈ keywords ↔ Text.bareName name = "self" := by
  have hself : Text.upperCamel name = "Self" ↔ Text.bareName name = "self" :=
    Text.upperCamel_eq_iff (b := "self") h (by decide)
  have hcapitals : ∀ k ∈ keywords, k.toList.head?.any Char.isUpper → k = "Self" := by decide
  rw [← hself]
  constructor
  · intro hk
    refine hcapitals _ hk ?_
    rw [Text.upperCamel_of_snake h, String.toList_ofList]
    exact (Text.beginsWithLetter_iff h).1 letter
  · intro hk
    rw [hk]
    decide

/-- Each field has a variant of its own that can be used exactly if no joined name is refused as an
identifier or is a keyword, and no two are the same; the module needs no more than an identifier for
its name. Where names have small letters, digits and
underscores only, that is so if they begin with letters, none of them is `self`, and no two are the
same, once the underscores are left out that do not stand between a letter or digit and a letter. -/
theorem usable_iff (library : String) (visibility : List String) (name : Name)
    (fields : List Field) :
    let declared : Declaration := ⟨visibility, name, .fields fields⟩
    let module := Text.snake name.written
    ((∃ e, ofDeclaration (.ok library) declared = .ok e) ↔ Text.isIdentifier module.toList ∧
      ∀ f ∈ fields, Text.isIdentifier (Text.upperCamel f.name.text).toList) ∧
    ((∃ e, ofDeclaration (.ok library) declared = .ok e ∧ e.Usable fields) ↔
      Text.isIdentifier module.toList ∧
      (∀ f ∈ fields, Text.isIdentifier (Text.upperCamel f.name.text).toList ∧
        Text.upperCamel f.name.text ∉ keywords) ∧
      (fields.map fun f => Text.upperCamel f.name.text).Nodup) ∧
    ((∀ f ∈ fields, Text.Snake f.name.text.toList) →
      ((∃ e, ofDeclaration (.ok library) declared = .ok e ∧ e.Usable fields) ↔
        Text.isIdentifier module.toList ∧
        (∀ f ∈ fields, Text.BeginsWithLetter f.name.text ∧ Text.bareName f.name.text ≠ "self") ∧
        (fields.map fun f => Text.bareName f.name.text).Nodup)) := by
  intro declared module
  have usable : (∃ e, ofDeclaration (.ok library) declared = .ok e ∧ e.Usable fields) ↔
      Text.isIdentifier module.toList ∧
      (∀ f ∈ fields, Text.isIdentifier (Text.upperCamel f.name.text).toList ∧
        Text.upperCamel f.name.text ∉ keywords) ∧
      (fields.map fun f => Text.upperCamel f.name.text).Nodup := by
    simp only [declared, ofDeclaration_eq_ok_iff]
    constructor
    · rintro ⟨e, ⟨hmodule, hfields, rfl⟩, he⟩
      obtain ⟨hkeywords, hdistinct⟩ := (usable_named_iff library _ _ fields hfields).1 he
      exact ⟨hmodule, fun f hf => ⟨hfields f hf, hkeywords f hf⟩, hdistinct⟩
    · rintro ⟨hmodule, hfields, hdistinct⟩
      have hidentifiers := fun f hf => (hfields f hf).1
      refine ⟨_, ⟨hmodule, hidentifiers, rfl⟩, ?_⟩
      exact (usable_named_iff library _ _ fields hidentifiers).2
        ⟨fun f hf => (hfields f hf).2, hdistinct⟩
  refine ⟨?_, usable, fun snake => ?_⟩
  · simp only [declared, ofDeclaration_eq_ok_iff]
    exact ⟨fun ⟨_, hmodule, hfields, _⟩ => ⟨hmodule, hfields⟩,
      fun ⟨hmodule, hfields⟩ => ⟨_, hmodule, hfields, rfl⟩⟩
  · rw [usable]
    refine and_congr_right fun _ => and_congr (forall₂_congr fun f hf => ?_) ?_
    · rw [Text.isIdentifier_upperCamel_iff (snake f hf)]
      exact and_congr_right fun letter => not_congr (upperCamel_mem_keywords_iff (snake f hf) letter)
    · have hinj : ∀ f ∈ fields, ∀ g ∈ fields,
          Text.upperCamel f.name.text = Text.upperCamel g.name.text ↔
            Text.bareName f.name.text = Text.bareName g.name.text :=
        fun f hf g hg => Text.upperCamel_eq_iff (snake f hf) (snake g hg)
      simp only [List.Nodup, List.pairwise_map]
      exact List.Pairwise.iff_of_mem fun hf hg => not_congr (hinj _ hf _ hg)

/-- Names with underscores before letters, one of them a keyword that is written raw. -/
theorem usable_iff_display_name : ∃ e,
    ofDeclaration (.ok "::kurultai") ⟨[], ⟨"User", false⟩, .fields [⟨⟨"id", false⟩, []⟩,
      ⟨⟨"display_name", false⟩, []⟩, ⟨⟨"type", true⟩, []⟩]⟩ = .ok e ∧
    e.Usable [⟨⟨"id", false⟩, []⟩, ⟨⟨"display_name", false⟩, []⟩, ⟨⟨"type", true⟩, []⟩] :=
  ((usable_iff "::kurultai" [] ⟨"User", false⟩ _).2.2 (by decide)).2 (by decide)

/-- Two names that differ in an underscore before a digit are joined to the same word. -/
theorem line1_and_line_1_share_a_variant :
    let fields : List Field := [⟨⟨"line1", false⟩, []⟩, ⟨⟨"line_1", false⟩, []⟩]
    (fields.map (·.name.text)).Nodup ∧
      (∀ f ∈ fields, Text.isIdentifier f.name.text.toList ∧ f.name.text ∉ keywords) ∧
      ¬ ∃ e, ofDeclaration (.ok "::kurultai") ⟨[], ⟨"S", false⟩, .fields fields⟩ = .ok e ∧
        (e.variants.map FieldVariant.name).Nodup := by
  refine ⟨by decide, by decide, ?_⟩
  rintro ⟨e, he, hdistinct⟩
  obtain ⟨-, -, rfl⟩ := (ofDeclaration_eq_ok_iff _ _ _ _ _).1 he
  revert hdistinct
  decide

end FieldEnum
end DocFilter
