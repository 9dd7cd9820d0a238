import DocFilter.Expansion.FieldEnum
import DocFilter.Proofs.Source.Reading
import Mathlib.Data.List.Forall2

/-!
Which name a field goes by, whatever is written before it. Attributes are printed as tokens and read
back, so that the path of a variant follows from what stands in the source. A `rename` counts if it
is all that the `serde` attributes of the field hold; one more setting, whatever it is, and the field
goes by its own name.
-/

namespace DocFilter

open Source

/-- The key of a setting. The two truth values are literals there. -/
structure SettingKey where
  text : String
  apart : text ≠ "true" ∧ text ≠ "false"

inductive SettingValue where
  | nothing
  /-- A literal after an equals sign. -/
  | literal (text : String)
  /-- More settings, or anything else in brackets. -/
  | nested (delimiter : Delimiter) (content : List Tree)

structure WrittenSetting where
  key : SettingKey
  value : SettingValue

inductive WrittenAttribute where
  | other (content : List Tree) (apart : isSerde content = false)
  /-- Where there are settings, a comma may stand behind the last one. -/
  | serde (delimiter : Delimiter) (settings : List WrittenSetting) (trailing : Bool)

structure WrittenField where
  name : Name
  attributes : List WrittenAttribute

namespace SettingValue

def tokens : SettingValue → List Tree
  | nothing => []
  | literal text => [.punct '=' false, .literal text]
  | nested delimiter content => [.group delimiter content]

def text? : SettingValue → Option String
  | literal text => stringValue? text
  | nothing | nested .. => none

end SettingValue

namespace WrittenSetting

def tokens (s : WrittenSetting) : List Tree := .word s.key.text false :: s.value.tokens

def setting (s : WrittenSetting) : Setting := .keyed s.key.text s.value.text?

def name? (s : WrittenSetting) : Option String :=
  if s.key.text = "rename" then s.value.text? else none

end WrittenSetting

namespace WrittenAttribute

def content : WrittenAttribute → List Tree
  | other content _ => content
  | serde delimiter settings trailing =>
    [.word "serde" false,
      .group delimiter (Reader.separated trailing (settings.map WrittenSetting.tokens))]

def settings : WrittenAttribute → List WrittenSetting
  | other .. => []
  | serde _ settings _ => settings

end WrittenAttribute

namespace WrittenField

def field (w : WrittenField) : Field := ⟨w.name, w.attributes.map WrittenAttribute.content⟩

def settings (w : WrittenField) : List WrittenSetting :=
  w.attributes.flatMap WrittenAttribute.settings

def renames (w : WrittenField) : List String := w.settings.filterMap WrittenSetting.name?

end WrittenField

open Reader

theorem reads_key (key : SettingKey) (value : SettingValue) {rest : List Tree} (h : ItemEnd rest) :
    Reads Setting.key (.word key.text false :: (value.tokens ++ rest)) key.text
      (value.tokens ++ rest) := by
  intro written
  refine ⟨key.text :: written, ?_⟩
  cases value <;> cases h <;> rfl

theorem atLiteral_key (key : SettingKey) (rest : List Tree) :
    atLiteral (seen (.word key.text false :: rest)) = false := by
  simp [seen, Tree.isComma, atLiteral, key.apart]

theorem WrittenSetting.reads (s : WrittenSetting) (rest : List Tree) (h : ItemEnd rest) :
    Reads Setting.read (s.tokens ++ rest) s.setting rest := by
  obtain ⟨key, value⟩ := s
  refine (Reads.ahead _).bind ?_
  rw [if_neg (by simp [tokens, atLiteral_key])]
  refine (reads_key key value h).bind ((Reads.ahead _).bind ?_)
  cases value with
  | nothing => cases h <;> exact fun written => ⟨written, rfl⟩
  | nested delimiter content => cases delimiter <;> exact fun written => ⟨_, rfl⟩
  | literal text =>
    have equals : Reads (operator? "=") (.punct '=' false :: .literal text :: rest) true
        (.literal text :: rest) := fun written => ⟨"=" :: written, rfl⟩
    refine equals.bind ((Reads.ahead _).bind ?_)
    exact (Reads.pure () _).bind ((reads_expression_literal text h).bind (Reads.pure _ _))

theorem WrittenAttribute.settings?_serde (delimiter : Delimiter) (settings : List WrittenSetting)
    (trailing : Bool) : settings? (serde delimiter settings trailing).content =
      some (settings.map WrittenSetting.setting) := by
  change readAll? (separated trailing (settings.map WrittenSetting.tokens))
    (commaSeparated Setting.read) = _
  exact Reads.readAll? (reads_separated trailing settings (fun s _ => s.reads)
    fun s _ => List.cons_ne_nil _ _)

theorem WrittenAttribute.mapM_settings? (attributes : List WrittenAttribute) :
    ∃ lists, ((attributes.map content).filter isSerde).mapM settings? = some lists ∧
      lists.flatten = (attributes.flatMap settings).map WrittenSetting.setting := by
  induction attributes with
  | nil => exact ⟨[], rfl, rfl⟩
  | cons a attributes ih =>
    obtain ⟨lists, hlists, hflat⟩ := ih
    cases a with
    | other content apart =>
      refine ⟨lists, ?_, hflat⟩
      rw [List.map_cons, List.filter_cons_of_neg (by simp [WrittenAttribute.content, apart])]
      exact hlists
    | serde delimiter own trailing =>
      refine ⟨own.map WrittenSetting.setting :: lists, ?_, ?_⟩
      · rw [List.map_cons, List.filter_cons_of_pos rfl, List.mapM_cons, settings?_serde, hlists]
        rfl
      · rw [List.flatten_cons, hflat, List.flatMap_cons, List.map_append]
        rfl

/-- The name of a setting counts if no other setting stands beside it. -/
theorem WrittenField.rename?_of_single (w : WrittenField) {s : WrittenSetting}
    (h : w.settings = [s]) : rename? w.field.attributes = s.name? := by
  obtain ⟨lists, hlists, hflat⟩ := WrittenAttribute.mapM_settings? w.attributes
  rw [← settings, h, List.map_singleton, WrittenSetting.setting] at hflat
  simp only [rename?, field, hlists, Option.bind_eq_bind, Option.bind_some, hflat,
    WrittenSetting.name?]
  by_cases hkey : s.key.text = "rename"
  · simp [hkey]
  · simp [hkey]

theorem WrittenField.rename?_of_length (w : WrittenField) (h : w.settings.length ≠ 1) :
    rename? w.field.attributes = none := by
  obtain ⟨lists, hlists, hflat⟩ := WrittenAttribute.mapM_settings? w.attributes
  rw [← settings] at hflat
  have hlength : lists.flatten.length ≠ 1 := by rwa [hflat, List.length_map]
  simp only [rename?, field, hlists, Option.bind_eq_bind, Option.bind_some]
  split
  · rename_i heq
    exact absurd (congrArg List.length heq) hlength
  · rfl

theorem WrittenField.rename?_of_none (w : WrittenField) (h : w.renames = []) :
    rename? w.field.attributes = none := by
  by_cases hlength : w.settings.length = 1
  · obtain ⟨s, hs⟩ := List.length_eq_one_iff.mp hlength
    rw [w.rename?_of_single hs]
    exact List.filterMap_eq_nil_iff.mp h s (by simp [hs])
  · exact w.rename?_of_length hlength

theorem WrittenField.rename?_of_one (w : WrittenField) {x : String} (h : w.renames = [x]) :
    rename? w.field.attributes = if w.settings.length = 1 then some x else none := by
  split
  case isTrue hlength =>
    obtain ⟨s, hs⟩ := List.length_eq_one_iff.mp hlength
    rw [w.rename?_of_single hs]
    rw [renames, hs] at h
    cases hn : s.name? with
    | none => simp [hn] at h
    | some name => simpa [hn] using h
  case isFalse hlength => exact w.rename?_of_length hlength

theorem variantName_eq {field : String} (h : Text.isIdentifier (Text.upperCamel field).toList) :
    variantName field = .ok (Text.upperCamel field) := by
  rw [variantName, identifier, if_pos h]

theorem FieldVariant.mapM_ofField (fields : List Field)
    (h : ∀ f ∈ fields, Text.isIdentifier (Text.upperCamel f.name.text).toList) :
    fields.mapM FieldVariant.ofField = .ok (fields.map fun f =>
      ⟨Text.upperCamel f.name.text, (rename? f.attributes).getD f.name.text⟩) := by
  induction fields with
  | nil => rfl
  | cons f fields ih =>
    rw [List.mapM_cons, ih fun g hg => h g (List.mem_cons_of_mem _ hg), FieldVariant.ofField,
      variantName_eq (h f List.mem_cons_self)]
    rfl

/-- If the names that are generated are identifiers, there is an enum with one variant for each field
of the struct. -/
theorem FieldEnum.ofDeclaration_of_fields (library : String) {d : Declaration}
    {fields : List Field} (body : d.body = .fields fields)
    (module : Text.isIdentifier (Text.snake d.name.written).toList)
    (variants : ∀ f ∈ fields, Text.isIdentifier (Text.upperCamel f.name.text).toList) :
    ∃ e, FieldEnum.ofDeclaration (.ok library) d = .ok e ∧
      e.variants = fields.map fun f =>
        ⟨Text.upperCamel f.name.text, (rename? f.attributes).getD f.name.text⟩ := by
  refine ⟨⟨d.visibility, Text.snake d.name.written, _, library⟩, ?_, rfl⟩
  rw [ofDeclaration, body]
  change FieldEnum.ofFields _ _ _ = _
  rw [ofFields, identifier, if_pos module, FieldVariant.mapM_ofField fields variants]
  rfl

/-- A field with one `rename` goes by that name if nothing else stands in its `serde` attributes, and
by its own name otherwise. A field without any goes by its own name, whatever it has. -/
theorem FieldEnum.rename_counts_when_alone (library : String) {d : Declaration}
    {fields : List WrittenField} (body : d.body = .fields (fields.map WrittenField.field))
    (module : Text.isIdentifier (Text.snake d.name.written).toList)
    (variants : ∀ w ∈ fields, Text.isIdentifier (Text.upperCamel w.name.text).toList) :
    ∃ e, FieldEnum.ofDeclaration (.ok library) d = .ok e ∧
      List.Forall₂ (fun w v => v.name = Text.upperCamel w.name.text ∧
        (w.renames = [] → v.path = w.name.text) ∧
        ∀ x, w.renames = [x] → v.path = if w.settings.length = 1 then x else w.name.text)
        fields e.variants := by
  obtain ⟨e, he, hvariants⟩ := FieldEnum.ofDeclaration_of_fields library body module
    (by simpa [WrittenField.field] using variants)
  refine ⟨e, he, ?_⟩
  rw [hvariants, List.map_map, List.forall₂_map_right_iff, List.forall₂_same]
  intro w _
  refine ⟨rfl, fun hnone => ?_, fun x hone => ?_⟩
  · exact congrArg (·.getD w.name.text) (w.rename?_of_none hnone)
  · refine (congrArg (·.getD w.name.text) (w.rename?_of_one hone)).trans ?_
    split <;> rfl

/-- Two fields with the setting `rename = "_id"`, which is alone for the first one only. -/
def idAndKey : List WrittenField :=
  let rename : WrittenSetting := ⟨⟨"rename", by decide⟩, .literal "\"_id\""⟩
  let default : WrittenSetting := ⟨⟨"default", by decide⟩, .nothing⟩
  [⟨⟨"id", false⟩, [.serde .paren [rename] false]⟩,
    ⟨⟨"key", false⟩, [.serde .paren [rename, default] true]⟩]

theorem FieldEnum.rename_counts_when_alone_id : ∃ e,
    FieldEnum.ofDeclaration (.ok "::kurultai")
      ⟨[], ⟨"User", false⟩, .fields (idAndKey.map WrittenField.field)⟩ = .ok e ∧
    e.variants.map FieldVariant.path = ["_id", "key"] := by
  obtain ⟨e, he, hvariants⟩ := FieldEnum.rename_counts_when_alone "::kurultai"
    (d := ⟨[], ⟨"User", false⟩, .fields (idAndKey.map WrittenField.field)⟩) rfl (by decide)
    (by decide)
  refine ⟨e, he, ?_⟩
  obtain ⟨id, _, ⟨_, _, hid⟩, hrest, hvs⟩ := List.forall₂_cons_left_iff.mp hvariants
  obtain ⟨key, _, ⟨_, _, hkey⟩, hnil, rfl⟩ := List.forall₂_cons_left_iff.mp hrest
  obtain rfl := List.forall₂_nil_left_iff.mp hnil
  rw [hvs, List.map_cons, List.map_singleton, hid "_id" (by rfl), hkey "_id" (by rfl)]
  rfl

/-- A setting beside `rename`, and the field is stored under one name and asked for by another. -/
theorem FieldEnum.rename_beside_default_is_lost :
    FieldEnum.ofDeclaration (.ok "::kurultai") ⟨[], ⟨"S", false⟩, .fields [⟨⟨"a", false⟩,
      [[.word "serde" false, .group .paren
        [.word "rename" false, .punct '=' false, .literal "\"x\"", .punct ',' false,
          .word "default" false]]]⟩]⟩ =
      .ok ⟨[], "s", [⟨"A", "a"⟩], "::kurultai"⟩ := by
  rfl

end DocFilter
