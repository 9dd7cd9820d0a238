import DocFilter.Expansion.FilterText
import DocFilter.Proofs.Expansion.Rename
import DocFilter.Proofs.Source.Calls

/-!
A filter that is written as text means the calls that its entries stand for, in their order. The
entries are laid out as tokens, each with a value that is an expression up to the next comma, and what
is read and generated is compared with that layout. A value stands for a comparison exactly if its
tokens are a call of one of the eight operators with one argument.
-/

namespace DocFilter

open Source Source.Reader

inductive KeyTokens where
  | literal (text value : String) (reads : stringValue? text = some value)
  | word (n : Name)

namespace KeyTokens

def token : KeyTokens → Tree
  | literal text _ _ => .literal text
  | word n => .word n.text n.raw

def written : KeyTokens → WrittenKey
  | literal _ value _ => .text value
  | word n => .word n

end KeyTokens

structure EntryTokens where
  key : KeyTokens
  /-- Another sign follows the colon at once. -/
  joint : Bool
  value : List Tree
  /-- The value as it is printed. -/
  texts : List String

namespace EntryTokens

def tokens (e : EntryTokens) : List Tree := e.key.token :: .punct ':' e.joint :: e.value

/-- The value is an expression where `ending` follows it. -/
def EndsBefore (e : EntryTokens) (ending : List Tree) : Prop :=
  ∃ form, IsExpression form e.value ending e.texts

end EntryTokens

/-- Entries with commas between them, and perhaps one more behind the last. Each value is an
expression that ends at the comma after it, or at the end. -/
inductive EntryList : List Tree → List EntryTokens → Prop where
  | nil : EntryList [] []
  | last (e : EntryTokens) (ends : e.EndsBefore []) : EntryList e.tokens [e]
  | cons (e : EntryTokens) (joint : Bool) {rest : List Tree} {es : List EntryTokens}
      (ends : e.EndsBefore [.punct ',' joint]) (more : EntryList rest es) :
      EntryList (e.tokens ++ .punct ',' joint :: rest) (e :: es)

/-- The entries of a filter, alone or after the name of a module. Within a module, every word among
the keys must have a variant. -/
inductive FilterTokens : List Tree → Option Name → List EntryTokens → Prop where
  | alone {ts : List Tree} {es : List EntryTokens} (entries : EntryList ts es) :
      FilterTokens ts none es
  | within (m : Name) (name : m.raw ∨ m.text ∉ keywords) (joint : Bool) {ts : List Tree}
      {es : List EntryTokens} (entries : EntryList ts es)
      (variants : ∀ e ∈ es, ∀ n, e.key = .word n →
        Text.isIdentifier (Text.upperCamel n.text).toList) :
      FilterTokens (.word m.text m.raw :: .punct ',' joint :: ts) (some m) es

/-- The field that is generated for a key: the string, the word without the sign of a raw word, or
the variant in the module. -/
def WrittenKey.generated (module : Option Name) : WrittenKey → Key
  | .text s => .path s
  | .word n =>
    match module with
    | some m => .variant m.written (Text.upperCamel n.text)
    | none => .path n.text

/-- The value is a call of the operator with one argument. Only attributes may stand before it. -/
def Compares (value : List Tree) (c : Comparator) (argument : List String) : Prop :=
  ∃ attributes content, Attributes attributes ∧
    value = attributes ++ [.word c.name false, .group .paren content] ∧
    OneArgument content argument

inductive EntryTokens.Means (s : Surroundings) (module : Option Name)
    (e : EntryTokens) : Call → Prop where
  | relation (r : Relation) (argument : List String)
      (compares : Compares e.value (.relation r) argument) :
      Means s module e (.compare (s.field (e.key.written.generated module))
        (.relation r (s.value (spaced argument))))
  | membership (m : Membership) (argument : List String)
      (compares : Compares e.value (.membership m) argument) :
      Means s module e (.compare (s.field (e.key.written.generated module))
        (.membership m (s.values (spaced argument))))
  | whole (other : ∀ c argument, ¬ Compares e.value c argument) :
      Means s module e (.put (s.field (e.key.written.generated module))
        (s.value (spaced e.texts)))

theorem KeyTokens.reads (key : KeyTokens) (rest : List Tree) :
    Reads WrittenEntry.readKey (key.token :: rest) key.written rest := by
  cases key with
  | literal text value hvalue =>
    have htoken : Reads Reader.token (.literal text :: rest) (.literal text) rest :=
      fun written => ⟨text :: written, rfl⟩
    refine htoken.bind ?_
    simp only [hvalue]
    exact Reads.pure _ _
  | word n => exact fun written => ⟨_, rfl⟩

namespace EntryTokens

def ReadAs (e : EntryTokens) (w : WrittenEntry) : Prop :=
  ∃ form ending, ItemEnd ending ∧ IsExpression form e.value ending e.texts ∧
    w = WrittenEntry.ofValue e.key.written form e.texts

/-- A value can be printed in one way only. That need not be the texts of its tokens: `a.0.1` holds one
number, which is printed as two. -/
theorem EndsBefore.texts_eq {e e' : EntryTokens} {ending : List Tree} (h : e.EndsBefore ending)
    (h' : e'.EndsBefore ending) (hvalue : e.value = e'.value) : e.texts = e'.texts := by
  obtain ⟨form, hform⟩ := h
  obtain ⟨form', hform'⟩ := h'
  rw [← hvalue] at hform'
  exact (hform.unique hform').2

theorem EndsBefore.before_comma {e : EntryTokens} {joint : Bool}
    (h : e.EndsBefore [.punct ',' joint]) (rest : List Tree) :
    e.EndsBefore (.punct ',' joint :: rest) := by
  obtain ⟨form, hvalue⟩ := h
  exact ⟨form, hvalue.of_seen_eq rfl⟩

theorem EndsBefore.reads {e : EntryTokens} {ending : List Tree} (h : e.EndsBefore ending)
    (hend : ItemEnd ending) :
    ∃ w, e.ReadAs w ∧ Reads WrittenEntry.read (e.tokens ++ ending) w ending := by
  obtain ⟨form, hvalue⟩ := h
  have colon :
      Reads (operator ":") (.punct ':' e.joint :: (e.value ++ ending)) () (e.value ++ ending) :=
    fun written => ⟨":" :: written, by rfl⟩
  refine ⟨_, ⟨form, ending, hend, hvalue, rfl⟩, (e.key.reads _).bind (colon.bind ?_)⟩
  exact (reads_captured hvalue).bind (Reads.pure _ _)

end EntryTokens

/-- The entries that are left come after those that have been read. -/
theorem EntryList.reads {ts : List Tree} {es : List EntryTokens} (h : EntryList ts es)
    (before : List WrittenEntry) :
    ∃ ws, List.Forall₂ EntryTokens.ReadAs es ws ∧
      Reads (iterate before (nextItem WrittenEntry.read)) ts (before ++ ws) [] := by
  induction h generalizing before with
  | nil => exact ⟨[], .nil, by simpa using reads_no_more_items⟩
  | last e ends =>
    obtain ⟨w, hw, hread⟩ := ends.reads .nothing
    rw [List.append_nil] at hread
    exact ⟨[w], .cons hw .nil, reads_last_item (List.cons_ne_nil _ _) hread⟩
  | cons e joint ends more ih =>
    obtain ⟨w, hw, hread⟩ := (ends.before_comma _).reads (.comma joint _)
    obtain ⟨ws, hws, hreads⟩ := ih (before ++ [w])
    rw [List.append_assoc] at hreads
    exact ⟨w :: ws, .cons hw hws, reads_next_item hread hreads⟩

/-- A key is followed by a colon, so that it is not taken for the name of a module. -/
theorem EntryTokens.not_module (e : EntryTokens) (rest : List Tree) :
    (atName (seen (e.tokens ++ rest)) && atOp "," (after (seen (e.tokens ++ rest)))) = false := by
  obtain ⟨key, joint, value, texts⟩ := e
  cases key with
  | literal text value hvalue => rfl
  | word n => exact Bool.and_false _

theorem EntryList.not_module {ts : List Tree} {es : List EntryTokens}
    (h : EntryList ts es) : (atName (seen ts) && atOp "," (after (seen ts))) = false := by
  cases h with
  | nil => rfl
  | last e ends =>
    rw [← List.append_nil e.tokens]
    exact e.not_module []
  | cons e joint ends more => exact e.not_module _

theorem atName_seen {m : Name} (h : m.raw ∨ m.text ∉ keywords) (rest : List Tree) :
    atName (seen (.word m.text m.raw :: rest)) = true := by
  simpa [seen, Tree.isComma, atName] using h

theorem FilterTokens.reads {ts : List Tree} {module : Option Name} {es : List EntryTokens}
    (h : FilterTokens ts module es) :
    ∃ ws, List.Forall₂ EntryTokens.ReadAs es ws ∧ Reads WrittenFilter.read ts ⟨module, ws⟩ [] := by
  cases h with
  | alone entries =>
    obtain ⟨ws, hws, hreads⟩ := entries.reads []
    have hmodule : Reads WrittenFilter.readModule ts none ts := by
      refine (Reads.ahead ts).bind ?_
      rw [entries.not_module, if_neg Bool.false_ne_true]
      exact Reads.pure _ _
    exact ⟨ws, hws, hmodule.bind (Reads.bind hreads (Reads.pure _ _))⟩
  | @within m hm joint rest es entries variants =>
    obtain ⟨ws, hws, hreads⟩ := entries.reads []
    have hat := atName_seen hm (.punct ',' joint :: rest)
    have hname : Reads Reader.name (.word m.text m.raw :: .punct ',' joint :: rest) m
        (.punct ',' joint :: rest) := by
      refine (Reads.ahead _).bind ?_
      rw [hat]
      exact fun written => ⟨_, rfl⟩
    have hmodule : Reads WrittenFilter.readModule (.word m.text m.raw :: .punct ',' joint :: rest)
        (some m) rest := by
      refine (Reads.ahead _).bind ?_
      rw [hat, if_pos (by rfl)]
      exact hname.bind ((Reads.comma joint rest).bind (Reads.pure _ _))
    exact ⟨ws, hws, hmodule.bind (Reads.bind hreads (Reads.pure _ _))⟩

theorem FilterTokens.module_iff {ts : List Tree} {module : Option Name}
    {es : List EntryTokens} (h : FilterTokens ts module es) (m : Name) :
    module = some m ↔ (m.raw ∨ m.text ∉ keywords) ∧
      ∃ joint rest, ts = .word m.text m.raw :: .punct ',' joint :: rest := by
  cases h with
  | alone entries =>
    constructor
    · rintro ⟨⟩
    · rintro ⟨hm, joint, rest, rfl⟩
      have hcomma : atOp "," (after (seen (.word m.text m.raw :: .punct ',' joint :: rest))) =
          true := by rfl
      have hnot := entries.not_module
      rw [atName_seen hm, hcomma] at hnot
      cases hnot
  | within m' hm joint entries variants =>
    constructor
    · rintro ⟨⟩
      exact ⟨hm, joint, _, rfl⟩
    · rintro ⟨-, joint', rest', heq⟩
      obtain ⟨text, raw⟩ := m
      obtain ⟨text', raw'⟩ := m'
      cases heq
      rfl

theorem Comparator.eq_name_of_ofName? {s : String} {c : Comparator} (h : ofName? s = some c) :
    s = c.name := by
  have hname := List.find?_some (show all.find? (fun c => c.name == s) = some c from h)
  exact (eq_of_beq hname).symm

theorem WrittenEntry.ofValue_of_not_call {key : WrittenKey} {form : Form} {texts : List String}
    (h : ∀ (c : Comparator) argument, form ≠ .call (some c.name) [argument]) :
    ofValue key form texts = ⟨key, none, texts⟩ := by
  rw [ofValue.eq_def]
  split
  case h_1 callee argument =>
    split
    case h_1 c hc =>
      rw [Comparator.eq_name_of_ofName? hc] at h
      exact absurd rfl (h c argument)
    case h_2 => rfl
  case h_2 => rfl

/-- The names of the operators are no raw words. -/
theorem eq_of_written_eq_name {n : Name} {c : Comparator} (h : n.written = c.name) :
    n = ⟨c.name, false⟩ := by
  obtain ⟨text, raw⟩ := n
  cases raw with
  | false => exact congrArg (Name.mk · false) h
  | true =>
    have hhead := congrArg (·.toList.head?) h
    have hraw : (Name.written ⟨text, true⟩).toList.head? = some 'r' := by
      simp [Name.written, wordText]
    simp only [hraw] at hhead
    cases c with
    | relation r => cases r <;> cases hhead
    | membership m => cases m <;> cases hhead

theorem reads_atom_name (c : Comparator) (content rest : List Tree) :
    Reads (atom true) (.word c.name false :: .group .paren content :: rest) (.name c.name)
      (.group .paren content :: rest) := by
  cases c with
  | relation r => cases r <;> exact fun written => ⟨_, rfl⟩
  | membership m => cases m <;> exact fun written => ⟨_, rfl⟩

theorem compares_iff {value ending : List Tree} {form : Form} {texts : List String}
    (hend : ItemEnd ending) (h : IsExpression form value ending texts) (c : Comparator)
    (argument : List String) :
    Compares value c argument ↔ form = .call (some c.name) [argument] := by
  constructor
  · rintro ⟨attributes, content, hfront, rfl, hargument⟩
    exact call_of_tokens (n := ⟨c.name, false⟩) (reads_atom_name c content ending) hfront hargument
      hend (by simp) h
  · rintro rfl
    obtain ⟨attributes, n, content, hfront, hrest, hcallee, hargument⟩ := call_inv h
    obtain rfl := eq_of_written_eq_name hcallee.symm
    refine ⟨attributes, content, hfront, ?_, hargument⟩
    have hvalue : value ++ ending =
        (attributes ++ [.word c.name false, .group .paren content]) ++ ending := by
      simpa using hrest
    exact List.append_cancel_right hvalue

theorem WrittenEntry.key_ofValue (key : WrittenKey) (form : Form) (texts : List String) :
    (ofValue key form texts).key = key := by
  rw [ofValue.eq_def]
  split
  · split <;> rfl
  · rfl

def WrittenEntry.generated (module : Option Name) (w : WrittenEntry) : FilterEntry :=
  ⟨w.key.generated module, w.comparator, spaced w.operand⟩

theorem EntryTokens.ReadAs.key {e : EntryTokens} {w : WrittenEntry}
    (h : e.ReadAs w) : w.key = e.key.written := by
  obtain ⟨form, rest, -, -, rfl⟩ := h
  exact WrittenEntry.key_ofValue _ _ _

theorem EntryTokens.ReadAs.means {e : EntryTokens} {w : WrittenEntry}
    (h : e.ReadAs w) (s : Surroundings) (module : Option Name) :
    e.Means s module ((w.generated module).call s) := by
  obtain ⟨form, ending, hend, hvalue, rfl⟩ := h
  have hcompares := compares_iff hend hvalue
  by_cases hcall : ∃ (c : Comparator) (argument : List String),
      form = .call (some c.name) [argument]
  · obtain ⟨c, argument, hform⟩ := hcall
    have hc : Compares e.value c argument := (hcompares c argument).2 hform
    have hw : WrittenEntry.ofValue e.key.written form e.texts =
        ⟨e.key.written, some c, argument⟩ := by
      rw [hform, WrittenEntry.ofValue, Comparator.ofName?_name]
    rw [hw]
    cases c with
    | relation r => exact .relation r argument hc
    | membership m => exact .membership m argument hc
  · have hnot (c : Comparator) (argument : List String) :
        form ≠ .call (some c.name) [argument] := fun hform => hcall ⟨c, argument, hform⟩
    rw [WrittenEntry.ofValue_of_not_call hnot]
    exact .whole fun c argument hc => hnot c argument ((hcompares c argument).1 hc)

theorem Key.ofWritten_eq {module : Option Name} {key : WrittenKey}
    (h : ∀ m n, module = some m → key = .word n →
      Text.isIdentifier (Text.upperCamel n.text).toList) :
    Key.ofWritten module key = .ok (key.generated module) := by
  cases key with
  | text s => rfl
  | word n =>
    cases module with
    | none => rfl
    | some m =>
      rw [Key.ofWritten, variantName_eq (h m n rfl rfl)]
      rfl

theorem FilterText.ofWritten_eq (library : String) {module : Option Name} {ws : List WrittenEntry}
    (h : ∀ w ∈ ws, Key.ofWritten module w.key = .ok (w.key.generated module)) :
    FilterText.ofWritten (.ok library) ⟨module, ws⟩ =
      .ok ⟨ws.map (WrittenEntry.generated module), library⟩ := by
  have hmap : ws.mapM (FilterEntry.ofWritten module) =
      .ok (ws.map (WrittenEntry.generated module)) := by
    induction ws with
    | nil => rfl
    | cons w ws ih =>
      obtain ⟨hw, hws⟩ := List.forall_mem_cons.1 h
      rw [List.mapM_cons, ih hws, FilterEntry.ofWritten, hw]
      rfl
  rw [FilterText.ofWritten, hmap]
  rfl

theorem FilterText.filter_eq_foldl (t : FilterText) (s : Surroundings) : t.filter s =
    (t.entries.map (FilterEntry.call s)).foldl (fun f c => (f.perform c).filter) .empty := by
  rw [filter, List.foldl_map]

theorem FilterTokens.variants {ts : List Tree} {module : Option Name}
    {es : List EntryTokens} (h : FilterTokens ts module es) {e : EntryTokens} (he : e ∈ es)
    (m n : Name) (hmodule : module = some m) (hkey : e.key.written = .word n) :
    Text.isIdentifier (Text.upperCamel n.text).toList := by
  cases h with
  | alone entries => cases hmodule
  | within m' hm joint entries variants =>
    apply variants e he n
    cases hk : e.key with
    | literal text value hvalue =>
      rw [hk] at hkey
      cases hkey
    | word n' =>
      rw [hk] at hkey
      cases hkey
      rfl

/-- The text of a filter is read as its entries, in their order, and as the name of its module if a
name and a comma stand at its beginning. It means one call for each entry, made in that order on an
empty filter: a comparison if the value is a call of an operator with one argument, and otherwise the
whole value. -/
theorem FilterText.ofSource_means (library source : String) {ts : List Tree} {module : Option Name}
    {es : List EntryTokens} (tokens : trees? source = some ts)
    (written : FilterTokens ts module es) :
    ∃ w t, WrittenFilter.ofSource? source = some w ∧
      (w.module = module ∧ ∀ m, w.module = some m ↔ (m.raw ∨ m.text ∉ keywords) ∧
        ∃ joint rest, ts = .word m.text m.raw :: .punct ',' joint :: rest) ∧
      w.entries.map WrittenEntry.key = es.map (fun e => e.key.written) ∧
      FilterText.ofSource (.ok library) source = .ok t ∧
      t.entries.map FilterEntry.key = es.map (fun e => e.key.written.generated module) ∧
      ∀ s, List.Forall₂ (EntryTokens.Means s module) es
          (t.entries.map (FilterEntry.call s)) ∧
        t.filter s =
          (t.entries.map (FilterEntry.call s)).foldl (fun f c => (f.perform c).filter) .empty := by
  obtain ⟨ws, hws, hreads⟩ := written.reads
  have hsource : WrittenFilter.ofSource? source = some ⟨module, ws⟩ := by
    simp [WrittenFilter.ofSource?, tokens, Reads.readAll? hreads]
  have hkeys : ws.map WrittenEntry.key = es.map (fun e => e.key.written) := by
    rw [← List.forall₂_eq_eq_eq, List.forall₂_map_left_iff, List.forall₂_map_right_iff]
    exact hws.flip.imp fun w e h => EntryTokens.ReadAs.key h
  have hgenerated : FilterText.ofSource (.ok library) source =
      .ok ⟨ws.map (WrittenEntry.generated module), library⟩ := by
    rw [FilterText.ofSource, hsource]
    refine FilterText.ofWritten_eq library fun w hw => Key.ofWritten_eq fun m n hmodule hkey => ?_
    have hmem : w.key ∈ es.map (fun e => e.key.written) := hkeys ▸ List.mem_map_of_mem hw
    obtain ⟨e, he, hek⟩ := List.mem_map.1 hmem
    exact written.variants he m n hmodule (hek.trans hkey)
  refine ⟨_, _, hsource, ⟨rfl, written.module_iff⟩, hkeys, hgenerated, ?_, fun s => ⟨?_, ?_⟩⟩
  · have hfields := congrArg (List.map (WrittenKey.generated module)) hkeys
    rw [List.map_map, List.map_map] at hfields
    rw [List.map_map]
    exact hfields
  · rw [List.map_map, List.forall₂_map_right_iff]
    exact hws.imp fun e w h => EntryTokens.ReadAs.means h s module
  · exact FilterText.filter_eq_foldl _ s

/-- An operator, one that takes several values, and another call, under keys of both kinds. -/
def memberEntries : List EntryTokens :=
  [⟨.word ⟨"age", false⟩, false, [.word "Gt" false, .group .paren [.literal "18"]],
      ["Gt", "(", "18", ")"]⟩,
    ⟨.literal "\"home.city\"" "home.city" (by rfl), false,
      [.word "In" false, .group .paren [.word "cities" false, .punct ',' false]],
      ["In", "(", "cities", ",", ")"]⟩,
    ⟨.word ⟨"type", true⟩, false, [.word "Some" false, .group .paren [.word "kind" false]],
      ["Some", "(", "kind", ")"]⟩]

def memberText : String := "member, age: Gt(18), \"home.city\": In(cities,), r#type: Some(kind)"

def memberTokens : List Tree :=
  .word "member" false :: .punct ',' false :: separated false (memberEntries.map EntryTokens.tokens)

theorem FilterText.ofSource_means_member : ∃ w t,
    trees? memberText = some memberTokens ∧
      FilterTokens memberTokens (some ⟨"member", false⟩) memberEntries ∧
      WrittenFilter.ofSource? memberText = some w ∧ w.module = some ⟨"member", false⟩ ∧
      FilterText.ofSource (.ok "::kurultai") memberText = .ok t ∧
      t.entries.map FilterEntry.key =
        [.variant "member" "Age", .path "home.city", .variant "member" "Type"] ∧
      ∀ s, List.Forall₂ (EntryTokens.Means s (some ⟨"member", false⟩)) memberEntries (t.entries.map (FilterEntry.call s)) := by
  have tokens : trees? memberText = some memberTokens := by rfl
  have written : FilterTokens memberTokens (some ⟨"member", false⟩)
      memberEntries := by
    refine .within ⟨"member", false⟩ (by decide) false
      (.cons _ false ⟨_, rfl⟩ (.cons _ false ⟨_, rfl⟩ (.last _ ⟨_, rfl⟩))) ?_
    simp only [memberEntries, List.forall_mem_cons, List.not_mem_nil, false_implies, implies_true,
      KeyTokens.word.injEq, forall_eq', reduceCtorEq, and_true, true_and]
    exact ⟨by rfl, by rfl⟩
  obtain ⟨w, t, hw, ⟨hmodule, -⟩, -, ht, hkeys, hcalls⟩ :=
    FilterText.ofSource_means "::kurultai" memberText tokens written
  exact ⟨w, t, tokens, written, hw, hmodule, ht, hkeys, fun s => (hcalls s).1⟩

end DocFilter
