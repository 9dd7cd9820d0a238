import DocFilter.Proofs.Document.Distinct
import DocFilter.Proofs.Json.Tokens

/-! The JSON text of a filter gives the filter back, with the order of its keys and items, as long as
it holds no doubles and only kinds that JSON has. What may change is the width of an integer, which
the text does not tell, so that the text that is written the second time is the same. -/

namespace DocFilter

/-- Values whose JSON text tells what they are but for the width of integers. No more than `levels`
documents and arrays stand inside one another. -/
inductive Value.Plain : (levels : Nat) → Value → Prop where
  | null (levels : Nat) : Plain levels .null
  | bool (levels : Nat) (b : Bool) : Plain levels (.bool b)
  | string (levels : Nat) (s : String) : Plain levels (.string s)
  | int32 (levels : Nat) (n : Int32) : Plain levels (.int32 n)
  | int64 (levels : Nat) (n : Int64) : Plain levels (.int64 n)
  | array (levels : Nat) (items : List Value) (values : ∀ v ∈ items, Plain levels v) :
      Plain (levels + 1) (.array items)
  | document (levels : Nat) (entries : Document)
      (keys : ∀ entry ∈ entries, entry.1 ∉ Json.extendedKeys)
      (values : ∀ entry ∈ entries, Plain levels entry.2) : Plain (levels + 1) (.document entries)

mutual

/-- The value with its integers as they come out of JSON: the narrow kind where it is wide enough
for an integer that is not negative, and the wide kind otherwise. -/
def Value.renumbered : Value → Value
  | .int32 n => if n.toInt < 0 then .int64 (Int64.ofInt n.toInt) else .int32 n
  | .int64 n =>
    if 0 ≤ n.toInt ∧ n.toInt < 0x80000000 then .int32 (Int32.ofInt n.toInt) else .int64 n
  | .array items => .array (renumberedItems items)
  | .document entries => .document (renumberedEntries entries)
  | v => v

def renumberedItems : List Value → List Value
  | [] => []
  | item :: rest => item.renumbered :: renumberedItems rest

def renumberedEntries : List (String × Value) → List (String × Value)
  | [] => []
  | (key, value) :: rest => (key, value.renumbered) :: renumberedEntries rest

end

theorem keys_renumberedEntries (entries : Document) :
    Document.keys (renumberedEntries entries) = Document.keys entries := by
  induction entries with
  | nil => rfl
  | cons entry rest ih =>
    rw [renumberedEntries, Document.keys_cons, ih]
    rfl

theorem compactItems_renumbered {items : List Value}
    (h : ∀ v ∈ items, v.renumbered.compactJson = v.compactJson) :
    compactItems (renumberedItems items) = compactItems items := by
  induction items with
  | nil => rfl
  | cons item rest ih =>
    obtain ⟨hitem, hrest⟩ := List.forall_mem_cons.1 h
    rw [renumberedItems, compactItems, compactItems, hitem, ih hrest]

theorem compactMember_renumbered {key : String} {v : Value}
    (h : v.renumbered.compactJson = v.compactJson) :
    compactMember (key, v.renumbered) = compactMember (key, v) := by
  rw [compactMember, compactMember, h]

theorem compactMembers_renumbered {entries : Document}
    (h : ∀ v ∈ entries.map Prod.snd, v.renumbered.compactJson = v.compactJson) :
    compactMembers (renumberedEntries entries) = compactMembers entries := by
  induction entries with
  | nil => rfl
  | cons entry rest ih =>
    obtain ⟨key, v⟩ := entry
    obtain ⟨hv, hrest⟩ := List.forall_mem_cons.1 h
    rw [renumberedEntries, compactMembers, compactMembers, compactMember_renumbered hv, ih hrest]

theorem compactJson_renumbered (v : Value) : v.renumbered.compactJson = v.compactJson := by
  induction v using Value.induction_on_children with
  | step v ih =>
    cases v with
    | int32 n =>
      have hlow : -0x80000000 ≤ n.toInt := n.le_toInt
      have hhigh : n.toInt < 0x80000000 := n.toInt_lt
      rw [Value.renumbered]
      split
      · rw [Value.compactJson, Value.compactJson, Int64.toInt_ofInt_of_le (by omega) (by omega)]
      · rfl
    | int64 n =>
      rw [Value.renumbered]
      split
      · rw [Value.compactJson, Value.compactJson, Int32.toInt_ofInt_of_le (by omega) (by omega)]
      · rfl
    | array items =>
      cases items with
      | nil => rfl
      | cons item rest =>
        obtain ⟨hitem, hrest⟩ := List.forall_mem_cons.1 ih
        rw [Value.renumbered, renumberedItems, Value.compactJson, Value.compactJson, hitem,
          compactItems_renumbered hrest]
    | document entries =>
      cases entries with
      | nil => rfl
      | cons entry rest =>
        obtain ⟨key, v⟩ := entry
        obtain ⟨hv, hrest⟩ := List.forall_mem_cons.1 ih
        rw [Value.renumbered, renumberedEntries, Value.compactJson, Value.compactJson,
          compactMember_renumbered hv, compactMembers_renumbered hrest]
    | _ => rfl

namespace Json

/-- A text that is read as a tree for a value, whatever stands behind it. The tree is `levels`
deep. -/
structure Means (levels : Nat) (text : List Char) (v : Value) : Prop where
  begins : ∃ c tail, text = c :: tail ∧ isSpace c = false ∧ c ≠ ']'
  read : ∃ tree, (∀ fuel rest, 2 * text.length ≤ fuel → Ends rest →
      readValue fuel (text ++ rest) = some (tree, rest)) ∧
    ∀ depth, levels ≤ depth → toValue? depth tree = some v

theorem skipSpace_cons {c : Char} (h : isSpace c = false) (s : List Char) :
    skipSpace (c :: s) = c :: s := by
  simp [skipSpace, h]

theorem exists_fuel {n fuel : Nat} (h : 2 * (n + 1) ≤ fuel) :
    ∃ k, fuel = k + 1 ∧ 2 * n + 1 ≤ k :=
  ⟨fuel - 1, by omega, by omega⟩

theorem isSpace_number {c : Char} (hc : c.isDigit ∨ c = '-') : isSpace c = false := by
  rcases hc with hc | rfl
  · cases hs : isSpace c with
    | false => rfl
    | true =>
      simp only [isSpace, Bool.or_eq_true, beq_iff_eq] at hs
      rcases hs with ((rfl | rfl) | rfl) | rfl <;> simp at hc
  · decide

theorem readValue_number {c : Char} {tail : List Char} (hc : c.isDigit ∨ c = '-') (fuel : Nat) :
    readValue (fuel + 1) (c :: tail) =
      (readNumber (c :: tail)).bind fun (literal, rest) => some (.number literal, rest) := by
  have hother : c ≠ 'n' ∧ c ≠ 't' ∧ c ≠ 'f' ∧ c ≠ '"' ∧ c ≠ '[' ∧ c ≠ '\x7b' := by
    refine ⟨?_, ?_, ?_, ?_, ?_, ?_⟩ <;> (rintro rfl; simp at hc)
  simp only [readValue, skipSpace_cons (isSpace_number hc)]
  split
  case h_7 => rfl
  all_goals simp_all

theorem means_null (levels : Nat) : Means levels Value.null.compactJson.toList .null where
  begins := ⟨'n', _, rfl, rfl, by decide⟩
  read := by
    refine ⟨.null, fun fuel rest hfuel _ => ?_, fun depth _ => by rw [toValue?]⟩
    obtain ⟨k, rfl, -⟩ := exists_fuel hfuel
    rw [readValue]
    rfl

theorem means_bool (levels : Nat) (b : Bool) :
    Means levels (Value.bool b).compactJson.toList (.bool b) where
  begins := by
    cases b with
    | false => exact ⟨'f', _, rfl, rfl, by decide⟩
    | true => exact ⟨'t', _, rfl, rfl, by decide⟩
  read := by
    refine ⟨.bool b, fun fuel rest hfuel _ => ?_, fun depth _ => by rw [toValue?]⟩
    cases b with
    | false =>
      obtain ⟨k, rfl, -⟩ := exists_fuel hfuel
      rw [readValue]
      rfl
    | true =>
      obtain ⟨k, rfl, -⟩ := exists_fuel hfuel
      rw [readValue]
      rfl

theorem toList_stringText (s : String) :
    (stringText s).toList = '"' :: (s.toList.flatMap escapedChar ++ ['"']) := by
  simp [stringText]

theorem means_string (levels : Nat) (s : String) :
    Means levels (Value.string s).compactJson.toList (.string s) where
  begins := by
    rw [Value.compactJson, toList_stringText]
    exact ⟨'"', _, rfl, rfl, by decide⟩
  read := by
    rw [Value.compactJson, toList_stringText]
    refine ⟨.string (some s), fun fuel rest hfuel _ => ?_, fun depth _ => by rw [toValue?]; rfl⟩
    obtain ⟨k, rfl, -⟩ := exists_fuel hfuel
    have hstring := readString_text s.toList rest
    rw [readValue, List.cons_append, skipSpace_cons (by decide)]
    simp [hstring, textOf_units]

theorem toString_begins (i : Int) :
    ∃ c tail, (toString i).toList = c :: tail ∧ (c.isDigit ∨ c = '-') := by
  rw [toList_toString]
  split
  · exact ⟨'-', _, rfl, Or.inr rfl⟩
  · cases hdigits : Nat.toDigits 10 i.natAbs with
    | nil => simp at hdigits
    | cons c tail =>
      have hc : c ∈ Nat.toDigits 10 i.natAbs := by simp [hdigits]
      exact ⟨c, tail, rfl, Or.inl (Nat.isDigit_of_mem_toDigits (by omega) (by omega) hc)⟩

theorem means_integer (levels : Nat) (i : Int) {v : Value}
    (hv : (integerLiteral i).value.toValue? = some v) : Means levels (toString i).toList v := by
  obtain ⟨c, tail, htext, hc⟩ := toString_begins i
  refine ⟨⟨c, tail, htext, isSpace_number hc, ?_⟩, .number (integerLiteral i),
    fun fuel rest hfuel hrest => ?_, fun depth _ => by rw [toValue?, hv]⟩
  · rintro rfl
    simp at hc
  · rw [htext] at hfuel
    obtain ⟨k, rfl, -⟩ := exists_fuel hfuel
    rw [htext, List.cons_append, readValue_number hc, ← List.cons_append, ← htext,
      readNumber_toString i hrest]
    rfl

theorem means_int32 (levels : Nat) (n : Int32) :
    Means levels (Value.int32 n).compactJson.toList (Value.int32 n).renumbered := by
  have hlow : -0x80000000 ≤ n.toInt := n.le_toInt
  have hhigh : n.toInt < 0x80000000 := n.toInt_lt
  rw [Value.compactJson, Value.renumbered]
  apply means_integer
  rw [value_integerLiteral (by omega) (by omega)]
  by_cases hn : n.toInt < 0
  · have habs : -(n.toInt.natAbs : Int) = n.toInt := by omega
    rw [if_pos hn, if_pos hn, Number.toValue?, habs]
  · have hnarrow : Int32.ofNat n.toInt.natAbs = n := by
      rw [← Int32.ofInt_eq_ofNat, Int.natAbs_of_nonneg (by omega), Int32.ofInt_toInt]
    rw [if_neg hn, if_neg hn, Number.toValue?, if_pos (by omega), hnarrow]

theorem means_int64 (levels : Nat) (n : Int64) :
    Means levels (Value.int64 n).compactJson.toList (Value.int64 n).renumbered := by
  have hlow : -0x8000000000000000 ≤ n.toInt := n.le_toInt
  have hhigh : n.toInt < 0x8000000000000000 := n.toInt_lt
  rw [Value.compactJson, Value.renumbered]
  apply means_integer
  rw [value_integerLiteral hlow hhigh]
  by_cases hn : n.toInt < 0
  · have habs : -(n.toInt.natAbs : Int) = n.toInt := by omega
    rw [if_pos hn, if_neg (by omega), Number.toValue?, habs, Int64.ofInt_toInt]
  · have habs : (n.toInt.natAbs : Int) = n.toInt := by omega
    rw [if_neg hn, Number.toValue?]
    by_cases hnarrow : n.toInt < 0x80000000
    · rw [if_pos (by omega), if_pos ⟨by omega, hnarrow⟩, ← Int32.ofInt_eq_ofNat, habs]
    · rw [if_neg (by omega), if_pos (by omega), if_neg (by omega), ← Int64.ofInt_eq_ofNat, habs,
        Int64.ofInt_toInt]

theorem readItems_last {k : Nat} {s rest : List Char} {item : Json}
    (h : readValue k s = some (item, ']' :: rest)) :
    readItems (k + 1) s = some ([item], rest) := by
  rw [readItems, h]
  simp [skipSpace_cons (c := ']') rfl]

theorem readItems_more {k : Nat} {s s' rest : List Char} {item : Json} {items : List Json}
    (h : readValue k s = some (item, ',' :: s')) (h' : readItems k s' = some (items, rest)) :
    readItems (k + 1) s = some (item :: items, rest) := by
  rw [readItems, h]
  simp [skipSpace_cons (c := ',') rfl, h']

theorem readValue_array {k : Nat} {c : Char} {tail rest : List Char} {items : List Json}
    (hc : isSpace c = false) (hclose : c ≠ ']')
    (h : readItems k (c :: tail) = some (items, rest)) :
    readValue (k + 1) ('[' :: c :: tail) = some (.array items, rest) := by
  rw [readValue, skipSpace_cons rfl]
  simp [skipSpace_cons hc, hclose, h]

def itemsText (item : Value) (items : List Value) : List Char :=
  item.compactJson.toList ++ ((compactItems items).toList ++ [']'])

theorem itemsText_nil (item : Value) : itemsText item [] = item.compactJson.toList ++ [']'] := rfl

theorem itemsText_cons (item next : Value) (items : List Value) :
    itemsText item (next :: items) = item.compactJson.toList ++ ',' :: itemsText next items := by
  simp [itemsText, compactItems]

theorem readItems_itemsText {levels : Nat} {item : Value} {items : List Value}
    (h : ∀ v ∈ item :: items, Means levels v.compactJson.toList v.renumbered) :
    ∃ trees, (∀ fuel rest, 2 * (itemsText item items).length + 1 ≤ fuel →
        readItems fuel (itemsText item items ++ rest) = some (trees, rest)) ∧
      ∀ depth, levels ≤ depth →
        toValues? depth trees = some (renumberedItems (item :: items)) := by
  induction items generalizing item with
  | nil =>
    obtain ⟨tree, hread, hvalue⟩ := (h item (by simp)).read
    refine ⟨[tree], fun fuel rest hfuel => ?_, fun depth hdepth => ?_⟩
    · rw [itemsText_nil, List.length_append, List.length_singleton] at hfuel
      obtain ⟨k, rfl, hk⟩ := exists_fuel (n := item.compactJson.toList.length)
        (by omega : _ ≤ fuel)
      rw [itemsText_nil, List.append_assoc]
      exact readItems_last (hread k _ (by omega) (ends_cons (by simp)))
    · simp [toValues?, hvalue depth hdepth, renumberedItems]
  | cons next items ih =>
    obtain ⟨hitem, hitems⟩ := List.forall_mem_cons.1 h
    obtain ⟨tree, hread, hvalue⟩ := hitem.read
    obtain ⟨trees, hreads, hvalues⟩ := ih hitems
    refine ⟨tree :: trees, fun fuel rest hfuel => ?_, fun depth hdepth => ?_⟩
    · rw [itemsText_cons, List.length_append, List.length_cons] at hfuel
      obtain ⟨k, rfl, hk⟩ := exists_fuel (n := item.compactJson.toList.length)
        (by omega : _ ≤ fuel)
      rw [itemsText_cons, List.append_assoc]
      exact readItems_more (hread k _ (by omega) (ends_cons (by simp))) (hreads k rest (by omega))
    · simp [toValues?, hvalue depth hdepth, hvalues depth hdepth, renumberedItems]

theorem means_array {levels : Nat} {items : List Value}
    (h : ∀ v ∈ items, Means levels v.compactJson.toList v.renumbered) :
    Means (levels + 1) (Value.array items).compactJson.toList (Value.array items).renumbered := by
  cases items with
  | nil =>
    refine ⟨⟨'[', _, rfl, rfl, by decide⟩, .array [], fun fuel rest hfuel _ => ?_,
      fun depth hdepth => ?_⟩
    · obtain ⟨k, rfl, -⟩ := exists_fuel hfuel
      rw [readValue]
      rfl
    · obtain ⟨d, rfl⟩ : ∃ d, depth = d + 1 := ⟨depth - 1, by omega⟩
      rfl
  | cons item items =>
    obtain ⟨trees, hreads, hvalues⟩ := readItems_itemsText h
    have htext :
        (Value.array (item :: items)).compactJson.toList = '[' :: itemsText item items := by
      simp [Value.compactJson, itemsText]
    rw [htext]
    refine ⟨⟨'[', _, rfl, rfl, by decide⟩, .array trees, fun fuel rest hfuel _ => ?_,
      fun depth hdepth => ?_⟩
    · obtain ⟨k, rfl, hk⟩ := exists_fuel hfuel
      obtain ⟨c, tail, hbegin, hspace, hclose⟩ := (h item (by simp)).begins
      have hreads := hreads k rest hk
      rw [itemsText, hbegin] at hreads ⊢
      exact readValue_array hspace hclose hreads
    · obtain ⟨d, rfl⟩ : ∃ d, depth = d + 1 := ⟨depth - 1, by omega⟩
      rw [toValue?, hvalues d (by omega)]
      rfl

theorem readMembers_last {k : Nat} {key : String} {s rest : List Char} {value : Json}
    (h : readValue k s = some (value, '\x7d' :: rest)) :
    readMembers (k + 1) ((stringText key).toList ++ ':' :: s) =
      some ([(some key, value)], rest) := by
  have hkey := readString_text key.toList (':' :: s)
  rw [readMembers, toList_stringText, List.cons_append, skipSpace_cons rfl]
  simp [hkey, skipSpace_cons (c := ':') rfl, h, skipSpace_cons (c := '\x7d') rfl, textOf_units]

theorem readMembers_more {k : Nat} {key : String} {s s' rest : List Char} {value : Json}
    {members : List (Option String × Json)} (h : readValue k s = some (value, ',' :: s'))
    (h' : readMembers k s' = some (members, rest)) :
    readMembers (k + 1) ((stringText key).toList ++ ':' :: s) =
      some ((some key, value) :: members, rest) := by
  have hkey := readString_text key.toList (':' :: s)
  rw [readMembers, toList_stringText, List.cons_append, skipSpace_cons rfl]
  simp [hkey, skipSpace_cons (c := ':') rfl, h, skipSpace_cons (c := ',') rfl, textOf_units, h']

theorem readValue_object {k : Nat} {c : Char} {tail rest : List Char}
    {members : List (Option String × Json)} (hc : isSpace c = false) (hclose : c ≠ '\x7d')
    (h : readMembers k (c :: tail) = some (members, rest)) :
    readValue (k + 1) ('\x7b' :: c :: tail) = some (.object members, rest) := by
  rw [readValue, skipSpace_cons rfl]
  simp [skipSpace_cons hc, hclose, h]

def membersText (key : String) (v : Value) (entries : Document) : List Char :=
  (stringText key).toList ++ ':' :: (v.compactJson.toList ++
    ((compactMembers entries).toList ++ ['\x7d']))

theorem membersText_nil (key : String) (v : Value) :
    membersText key v [] =
      (stringText key).toList ++ ':' :: (v.compactJson.toList ++ ['\x7d']) := rfl

theorem membersText_cons (key key' : String) (v v' : Value) (entries : Document) :
    membersText key v ((key', v') :: entries) =
      (stringText key).toList ++ ':' ::
        (v.compactJson.toList ++ ',' :: membersText key' v' entries) := by
  simp [membersText, compactMembers, compactMember]

theorem readMembers_membersText {levels : Nat} (key : String) {v : Value} {entries : Document}
    (h : ∀ w ∈ v :: entries.map Prod.snd, Means levels w.compactJson.toList w.renumbered) :
    ∃ trees, (∀ fuel rest, 2 * (membersText key v entries).length + 1 ≤ fuel →
        readMembers fuel (membersText key v entries ++ rest) = some (trees, rest)) ∧
      trees.map Prod.fst = ((key, v) :: entries).map (some ·.1) ∧
      ∀ depth, levels ≤ depth →
        toEntries? depth trees = some (renumberedEntries ((key, v) :: entries)) := by
  induction entries generalizing key v with
  | nil =>
    obtain ⟨tree, hread, hvalue⟩ := (h v (by simp)).read
    refine ⟨[(some key, tree)], fun fuel rest hfuel => ?_, rfl, fun depth hdepth => ?_⟩
    · rw [membersText_nil, List.length_append, List.length_cons, List.length_append,
        List.length_singleton] at hfuel
      obtain ⟨k, rfl, hk⟩ := exists_fuel (n := v.compactJson.toList.length) (by omega : _ ≤ fuel)
      rw [membersText_nil, List.append_assoc, List.cons_append, List.append_assoc]
      exact readMembers_last (hread k _ (by omega) (ends_cons (by simp)))
    · simp [toEntries?, hvalue depth hdepth, renumberedEntries]
  | cons entry entries ih =>
    obtain ⟨key', v'⟩ := entry
    obtain ⟨hv, hentries⟩ := List.forall_mem_cons.1 h
    obtain ⟨tree, hread, hvalue⟩ := hv.read
    obtain ⟨trees, hreads, hnames, hvalues⟩ := ih key' (v := v') hentries
    refine ⟨(some key, tree) :: trees, fun fuel rest hfuel => ?_, ?_, fun depth hdepth => ?_⟩
    · rw [membersText_cons, List.length_append, List.length_cons, List.length_append,
        List.length_cons] at hfuel
      obtain ⟨k, rfl, hk⟩ := exists_fuel (n := v.compactJson.toList.length) (by omega : _ ≤ fuel)
      rw [membersText_cons, List.append_assoc, List.cons_append, List.append_assoc]
      exact readMembers_more (hread k _ (by omega) (ends_cons (by simp))) (hreads k rest (by omega))
    · rw [List.map_cons, hnames]
      rfl
    · simp [toEntries?, hvalue depth hdepth, hvalues depth hdepth, renumberedEntries]

theorem isExtended_of_keys {members : List (Option String × Json)} {entries : Document}
    (hnames : members.map Prod.fst = entries.map (some ·.1))
    (h : ∀ entry ∈ entries, entry.1 ∉ extendedKeys) : isExtended members = false := by
  rw [isExtended, List.any_eq_false]
  intro m hm
  obtain ⟨entry, hentry, hname⟩ := List.mem_map.1 (hnames ▸ List.mem_map_of_mem hm)
  simpa [← hname] using h entry hentry

theorem means_document {levels : Nat} {entries : Document} (hkeys : (Document.keys entries).Nodup)
    (hplain : ∀ entry ∈ entries, entry.1 ∉ extendedKeys)
    (h : ∀ v ∈ entries.map Prod.snd, Means levels v.compactJson.toList v.renumbered) :
    Means (levels + 1) (Value.document entries).compactJson.toList
      (Value.document entries).renumbered := by
  cases entries with
  | nil =>
    refine ⟨⟨'\x7b', _, rfl, rfl, by decide⟩, .object [], fun fuel rest hfuel _ => ?_,
      fun depth hdepth => ?_⟩
    · obtain ⟨k, rfl, -⟩ := exists_fuel hfuel
      rw [readValue]
      rfl
    · obtain ⟨d, rfl⟩ : ∃ d, depth = d + 1 := ⟨depth - 1, by omega⟩
      rfl
  | cons entry entries =>
    obtain ⟨key, v⟩ := entry
    obtain ⟨trees, hreads, hnames, hvalues⟩ := readMembers_membersText key h
    have htext : (Value.document ((key, v) :: entries)).compactJson.toList =
        '\x7b' :: membersText key v entries := by
      simp [Value.compactJson, compactMember, membersText]
    rw [htext]
    refine ⟨⟨'\x7b', _, rfl, rfl, by decide⟩, .object trees, fun fuel rest hfuel _ => ?_,
      fun depth hdepth => ?_⟩
    · obtain ⟨k, rfl, hk⟩ := exists_fuel hfuel
      have hreads := hreads k rest hk
      rw [membersText, toList_stringText] at hreads ⊢
      exact readValue_object rfl (by decide) hreads
    · obtain ⟨d, rfl⟩ : ∃ d, depth = d + 1 := ⟨depth - 1, by omega⟩
      have hfresh : Document.ofEntries (renumberedEntries ((key, v) :: entries)) =
          renumberedEntries ((key, v) :: entries) :=
        Document.ofEntries_of_nodup (by rwa [keys_renumberedEntries])
      rw [toValue?, isExtended_of_keys hnames hplain, if_neg Bool.false_ne_true,
        hvalues d (by omega), Option.map_some, hfresh, Value.renumbered]

theorem means_compactJson {levels : Nat} {v : Value} (hp : v.Plain levels) (hd : v.Distinct) :
    Means levels v.compactJson.toList v.renumbered := by
  induction hp with
  | null levels => exact means_null levels
  | bool levels b => exact means_bool levels b
  | string levels s => exact means_string levels s
  | int32 levels n => exact means_int32 levels n
  | int64 levels n => exact means_int64 levels n
  | array levels items _ ih =>
    rw [Value.distinct_array] at hd
    exact means_array fun v hv => ih v hv (hd v hv)
  | document levels entries hplain _ ih =>
    rw [Value.distinct_document] at hd
    refine means_document hd.1 hplain fun v hv => ?_
    obtain ⟨entry, hentry, rfl⟩ := List.mem_map.1 hv
    exact ih entry hentry (hd.2 _ hv)

end Json

namespace Filter

def renumbered (f : Filter) : Filter := ⟨renumberedEntries f.document⟩

/-- A filter without repeated keys and doubles, and with nothing in it that JSON lacks, is read back
from its text with every entry and every item in its place. Only integers may change their width,
and the filter that is read is written as the same text again. -/
theorem ofJson?_compactJson (f : Filter) {levels : Nat} (hd : f.toValue.Distinct)
    (hp : f.toValue.Plain levels) (hl : levels ≤ Json.greatestDepth) :
    ofJson? f.compactJson = some f.renumbered ∧ f.renumbered.compactJson = f.compactJson := by
  obtain ⟨-, tree, hread, hvalue⟩ := Json.means_compactJson hp hd
  have htree : Json.read? f.toValue.compactJson = some tree := by
    have htext := hread (2 * f.toValue.compactJson.toList.length + 2) [] (by omega) Json.ends_nil
    rw [List.append_nil] at htext
    simp only [Json.read?, htext, Option.bind_eq_bind, Option.bind_some]
    rfl
  have hdocument : tree.toValue? Json.greatestDepth = some (.document f.renumbered.document) :=
    (hvalue _ hl).trans rfl
  refine ⟨?_, compactJson_renumbered f.toValue⟩
  rw [ofJson?, compactJson, htree, Option.bind_eq_bind, Option.bind_some, hdocument]
  rfl

/-- The narrow negative integer comes back wide, and the wide small one narrow. -/
theorem ofJson?_compactJson_nested :
    let f : Filter := ⟨[("tags", .array [.string "a\"\x01é", .null, .bool true, .array []]),
      ("low", .int32 (-5)), ("inner", .document [("n", .int64 7)])]⟩
    f.toValue.Distinct ∧ f.toValue.Plain 3 ∧ 3 ≤ Json.greatestDepth ∧
      ofJson? f.compactJson =
        some ⟨[("tags", .array [.string "a\"\x01é", .null, .bool true, .array []]),
          ("low", .int64 (-5)), ("inner", .document [("n", .int32 7)])]⟩ := by
  intro f
  have hd : f.toValue.Distinct := by
    simp [f, toValue, Value.distinct_of_leaf (v := .null) rfl rfl,
      Value.distinct_of_leaf (v := .string _) rfl rfl, Value.distinct_of_leaf (v := .bool _) rfl rfl,
      Value.distinct_of_leaf (v := .int32 _) rfl rfl, Value.distinct_of_leaf (v := .int64 _) rfl rfl]
  have hp : f.toValue.Plain 3 := by
    have htags : Value.Plain 2 (.array [.string "a\"\x01é", .null, .bool true, .array []]) := by
      refine .array 1 _ ?_
      simp only [List.forall_mem_cons, List.not_mem_nil, false_implies, implies_true, and_true]
      exact ⟨.string 1 _, .null 1, .bool 1 _, .array 0 _ (by simp)⟩
    have hinner : Value.Plain 2 (.document [("n", .int64 7)]) :=
      .document 1 _ (by decide) (List.forall_mem_singleton.2 (.int64 1 7))
    refine .document 2 _ (by decide) ?_
    simp only [f, List.forall_mem_cons, List.not_mem_nil, false_implies, implies_true, and_true]
    exact ⟨htags, .int32 2 _, hinner⟩
  refine ⟨hd, hp, by decide, ?_⟩
  rw [(ofJson?_compactJson f hd hp (by decide)).1]
  rfl

end Filter

end DocFilter
