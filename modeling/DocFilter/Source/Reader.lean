import DocFilter.Source.Construct
import DocFilter.Source.Literal
import DocFilter.Source.Token

/-!
Reading tokens from left to right. A reader consumes tokens and writes the texts of those that it
keeps, so that what a construct is printed as follows from how it is read. It takes constructs from
a grammar that it is given, so that each rule is a plain definition, and the knot is tied once at the
end. Every reader keeps two laws, which are therefore part of what a reader is: a result depends on
the tokens that are consumed for it and on those that are seen after them, up to the next comma; and
the grammar is only asked about what is left to read.
-/

namespace DocFilter.Source

/-- What is left to read, and what has been written, backwards. -/
structure Cursor where
  rest : List Tree
  written : List String

def Cursor.size (c : Cursor) : Nat := treesSize c.rest

/-- A word, without the `r#` that may be written before it. -/
structure Name where
  text : String
  raw : Bool
  deriving DecidableEq

def Name.written (n : Name) : String := wordText n.text n.raw

def keywords : List String :=
  ["_", "abstract", "as", "async", "await", "become", "box", "break", "const", "continue", "crate",
    "do", "dyn", "else", "enum", "extern", "false", "final", "fn", "for", "if", "impl", "in", "let",
    "loop", "macro", "match", "mod", "move", "mut", "override", "priv", "pub", "ref", "return",
    "Self", "self", "static", "struct", "super", "trait", "true", "try", "type", "typeof", "unsafe",
    "unsized", "use", "virtual", "where", "while", "yield"]

/-- The characters of an operator must stand directly after one another. -/
def atChars : List Char → List Tree → Bool
  | [], _ => true
  | [c], .punct d _ :: _ => c == d
  | c :: cs, .punct d joint :: rest => c == d && joint && atChars cs rest
  | _, _ => false

def atOp (operator : String) (ts : List Tree) : Bool := atChars operator.toList ts

def atWord (name : String) : List Tree → Bool
  | .word other raw :: _ => !raw && other == name
  | _ => false

def atAnyWord : List Tree → Bool
  | .word .. :: _ => true
  | _ => false

def atName : List Tree → Bool
  | .word name raw :: _ => raw || !keywords.contains name
  | _ => false

/-- A word that is not a name, but that a path can begin with. -/
def atPathWord (ts : List Tree) : Bool := ["super", "self", "Self", "crate"].any (atWord · ts)

def atGroup (d : Delimiter) : List Tree → Bool
  | .group e _ :: _ => d == e
  | _ => false

def atLifetime : List Tree → Bool
  | .punct '\'' _ :: .word .. :: _ => true
  | _ => false

def atLiteral : List Tree → Bool
  | .literal _ :: _ => true
  | .word name raw :: _ => !raw && (name == "true" || name == "false")
  | .punct '-' _ :: .literal text :: _ => isNumber text
  | _ => false

def atStringLiteral : List Tree → Bool
  | .literal text :: _ => (stringValue? text).isSome
  | _ => false

/-- Steps over one token; a lifetime counts as one. -/
def after : List Tree → List Tree
  | .punct '\'' _ :: .word .. :: rest => rest
  | _ :: rest => rest
  | [] => []

def atAttribute (ts : List Tree) : Bool := atOp "#" ts && atGroup .bracket (after ts)

def Tree.isComma : Tree → Bool
  | .punct c _ => c == ','
  | _ => false

/-- The tokens up to the first comma, which is as far as a reader looks ahead. -/
def seen : List Tree → List Tree
  | [] => []
  | tree :: rest => if tree.isComma then [tree] else tree :: seen rest

theorem exists_of_seen_eq_cons {ts rest : List Tree} {tree : Tree} (h : seen ts = tree :: rest) :
    ∃ rest', ts = tree :: rest' := by
  cases ts with
  | nil => cases h
  | cons first rest' =>
    rw [seen] at h
    split at h <;> cases h <;> exact ⟨rest', rfl⟩

theorem seen_eq_nil_iff {ts : List Tree} : seen ts = [] ↔ ts = [] := by
  cases ts with
  | nil => simp [seen]
  | cons tree rest =>
    rw [seen]
    split <;> simp

theorem seen_append (read : List Tree) {rest rest' : List Tree} (h : seen rest = seen rest') :
    seen (read ++ rest) = seen (read ++ rest') := by
  induction read with
  | nil => exact h
  | cons tree read ih => simp only [List.cons_append, seen, ih]

abbrev Run (α : Type) := Cursor → Option (α × Cursor)

namespace Run

variable {α : Type}

/-- The run consumes `read` and writes `texts` wherever `ahead` is what is seen after that. -/
def Takes (run : Run α) (read ahead : List Tree) (x : α) (texts : List String) : Prop :=
  ∀ rest written, seen rest = ahead →
    run ⟨read ++ rest, written⟩ = some (x, ⟨rest, texts ++ written⟩)

/-- Nothing else counts than what is consumed, and what is seen after it. -/
def IsLocal (run : Run α) : Prop :=
  ∀ ⦃c x c'⦄, run c = some (x, c') → ∃ read texts, c.rest = read ++ c'.rest ∧
    c'.written = texts ++ c.written ∧ run.Takes read (seen c'.rest) x texts

theorem IsLocal.suffix {run : Run α} (h : run.IsLocal) {c c' : Cursor} {x : α}
    (hrun : run c = some (x, c')) : c'.rest <:+ c.rest := by
  obtain ⟨read, texts, hrest, -⟩ := h hrun
  exact ⟨read, hrest.symm⟩

theorem IsLocal.size_le {run : Run α} (h : run.IsLocal) {c c' : Cursor} {x : α}
    (hrun : run c = some (x, c')) : c'.size ≤ c.size := by
  obtain ⟨read, texts, hrest, -⟩ := h hrun
  rw [Cursor.size, Cursor.size, hrest, treesSize_append]
  exact Nat.le_add_left _ _

/-- Runs on what stands between brackets, up to its end. -/
def within (d : Delimiter) (inside : Run α) : Run α := fun c =>
  match c.rest with
  | .group e content :: rest =>
    if d = e then
      (inside ⟨content, d.opening.toString :: c.written⟩).bind fun p =>
        if p.2.rest.isEmpty then some (p.1, ⟨rest, d.closing.toString :: p.2.written⟩) else none
    else none
  | _ => none

theorem within_eq_some {d : Delimiter} {inside : Run α} {c c' : Cursor} {x : α} :
    within d inside c = some (x, c') ↔ ∃ content written, c.rest = .group d content :: c'.rest ∧
      inside ⟨content, d.opening.toString :: c.written⟩ = some (x, ⟨[], written⟩) ∧
      c'.written = d.closing.toString :: written := by
  constructor
  · intro h
    unfold within at h
    split at h
    case h_2 => cases h
    case h_1 e content rest hrest =>
      split at h
      case isFalse => cases h
      case isTrue hd =>
        subst hd
        obtain ⟨⟨x, m, written⟩, hinside, h⟩ := Option.bind_eq_some_iff.1 h
        cases m with
        | nil =>
          cases h
          exact ⟨content, written, hrest, hinside, rfl⟩
        | cons tree m => cases h
  · rintro ⟨content, written, hrest, hinside, hwritten⟩
    simp only [within, hrest, hinside, if_true, Option.bind_some, List.isEmpty_nil, ← hwritten]

theorem within_congr {d : Delimiter} {inside inside' : Run α} {c : Cursor}
    (h : ∀ c', c'.size < c.size → inside c' = inside' c') :
    within d inside c = within d inside' c := by
  unfold within
  split
  case h_2 => rfl
  case h_1 e content rest hrest =>
    have hless : treesSize content < c.size := by
      rw [Cursor.size, hrest, treesSize, Tree.size]
      omega
    rw [h ⟨content, _⟩ hless]

end Run

structure Grammar where
  read : Construct → Run Form
  isLocal (k : Construct) : (read k).IsLocal

/-- Two grammars that read the same from everything that is no longer than `n`. -/
def Grammar.AgreeUpTo (n : Nat) (f g : Grammar) : Prop :=
  ∀ k c, c.size ≤ n → f.read k c = g.read k c

theorem Grammar.AgreeUpTo.mono {n m : Nat} {f g : Grammar} (h : AgreeUpTo n f g) (hm : m ≤ n) :
    AgreeUpTo m f g :=
  fun k c hc => h k c (Nat.le_trans hc hm)

structure Reader (α : Type) where
  run : Grammar → Run α
  isLocal (g : Grammar) : (run g).IsLocal
  reach {f g : Grammar} {c : Cursor} : Grammar.AgreeUpTo c.size f g → run f c = run g c

namespace Reader

variable {α β : Type}

protected def pure (x : α) : Reader α where
  run _ c := some (x, c)
  isLocal g := by
    rintro c _ _ ⟨⟩
    exact ⟨[], [], rfl, rfl, fun rest written _ => rfl⟩
  reach _ := rfl

protected def bind (r : Reader α) (k : α → Reader β) : Reader β where
  run g c := (r.run g c).bind fun p => (k p.1).run g p.2
  isLocal g := by
    intro c y c' h
    obtain ⟨⟨x, m⟩, hr, hk⟩ := Option.bind_eq_some_iff.1 h
    obtain ⟨read, texts, hrest, hwritten, htakes⟩ := r.isLocal g hr
    obtain ⟨read', texts', hrest', hwritten', htakes'⟩ := (k x).isLocal g hk
    refine ⟨read ++ read', texts' ++ texts, ?_, ?_, fun rest written hseen => ?_⟩
    · rw [hrest, hrest', List.append_assoc]
    · rw [hwritten', hwritten, List.append_assoc]
    · have hmiddle : seen (read' ++ rest) = seen m.rest := by
        rw [hrest']
        exact seen_append read' hseen
      simp only [List.append_assoc, htakes _ written hmiddle, Option.bind_some, htakes' rest _ hseen]
  reach := by
    intro f g c h
    rw [r.reach h]
    refine Option.bind_congr fun p hp => (k p.1).reach (h.mono ?_)
    exact (r.isLocal g).size_le hp

instance : Monad Reader where
  pure := Reader.pure
  bind := Reader.bind

def fail : Reader α where
  run _ _ := none
  isLocal _ := by rintro _ _ _ ⟨⟩
  reach _ := rfl

def require (condition : Bool) : Reader Unit := if condition then pure () else fail

def call (k : Construct) : Reader Form where
  run g := g.read k
  isLocal g := g.isLocal k
  reach h := h k _ (Nat.le_refl _)

/-- The tokens that stand next, up to a comma. -/
def ahead : Reader (List Tree) where
  run _ c := some (seen c.rest, c)
  isLocal g := by
    rintro c _ _ ⟨⟩
    exact ⟨[], [], rfl, rfl, fun rest written hseen => by simp [hseen]⟩
  reach _ := rfl

def look (test : List Tree → Bool) : Reader Bool := do return test (← ahead)

def atEnd : Reader Bool := look List.isEmpty

def write (texts : List String) : Reader Unit where
  run _ c := some ((), ⟨c.rest, texts.reverse ++ c.written⟩)
  isLocal g := by
    rintro c _ _ ⟨⟩
    exact ⟨[], texts.reverse, rfl, rfl, fun rest written _ => rfl⟩
  reach _ := rfl

/-- Consumes one token or more, and writes other texts for them. -/
def replace (count : Nat) (texts : List String) : Reader Unit where
  run _ c :=
    if 0 < count ∧ count ≤ c.rest.length then
      some ((), ⟨c.rest.drop count, texts.reverse ++ c.written⟩)
    else none
  isLocal g := by
    intro c _ c' h
    dsimp only at h
    split at h
    case isTrue hcount =>
      cases h
      have hlength : (c.rest.take count).length = count := List.length_take_of_le hcount.2
      refine ⟨c.rest.take count, texts.reverse, (List.take_append_drop _ _).symm, rfl,
        fun rest written _ => ?_⟩
      simp only [List.length_append, List.drop_append, hlength, Nat.sub_self, List.drop_zero]
      rw [if_pos ⟨hcount.1, Nat.le_add_right _ _⟩, List.drop_of_length_le (Nat.le_of_eq hlength)]
      rfl
    case isFalse => cases h
  reach _ := rfl

def skip (count : Nat) : Reader Unit := replace count []

def token : Reader Tree := do
  match ← ahead with
  | tree :: _ =>
    replace 1 tree.texts
    return tree
  | [] => fail

/-- An operator is written with its characters apart. -/
def operator (op : String) : Reader Unit := do
  require (atOp op (← ahead))
  replace op.length (op.toList.map Char.toString)

def operator? (op : String) : Reader Bool := do
  if atOp op (← ahead) then
    operator op
    return true
  else return false

def keyword (name : String) : Reader Unit := do
  require (atWord name (← ahead))
  discard token

def keyword? (name : String) : Reader Bool := do
  if atWord name (← ahead) then
    discard token
    return true
  else return false

def anyWord : Reader Name := do
  match ← token with
  | .word text raw => return ⟨text, raw⟩
  | _ => fail

def name : Reader Name := do
  require (atName (← ahead))
  anyWord

def lifetime : Reader Unit := do
  require (atLifetime (← ahead))
  discard token
  discard token

/-- A literal of any kind; a minus sign is written apart from the number. -/
def literal : Reader Unit := do
  require (atLiteral (← ahead))
  if atOp "-" (← ahead) then discard token
  discard token

def inGroup (d : Delimiter) (inside : Reader α) : Reader α where
  run g := Run.within d (inside.run g)
  isLocal g := by
    intro c x c' h
    obtain ⟨content, written, hrest, hinside, hwritten⟩ := Run.within_eq_some.1 h
    obtain ⟨read, texts, hread, htexts, htakes⟩ := inside.isLocal g hinside
    obtain rfl : content = read := by simpa using hread
    obtain rfl : written = texts ++ d.opening.toString :: c.written := htexts
    refine ⟨[.group d content], d.closing.toString :: (texts ++ [d.opening.toString]), hrest,
      by simp [hwritten], fun rest written' _ => Run.within_eq_some.2 ?_⟩
    have hagain := htakes [] (d.opening.toString :: written') rfl
    rw [List.append_nil] at hagain
    exact ⟨content, _, rfl, hagain, by simp⟩
  reach h := Run.within_congr fun c' hless => inside.reach (h.mono (Nat.le_of_lt hless))

def anyGroup : Reader Delimiter := do
  match ← token with
  | .group d _ => return d
  | _ => fail

/-- Keeps apart what a reader writes. -/
def captured (r : Reader α) : Reader (α × List String) where
  run g c := (r.run g ⟨c.rest, []⟩).map fun p => ((p.1, p.2.written.reverse), ⟨p.2.rest, c.written⟩)
  isLocal g := by
    intro c x c' h
    obtain ⟨⟨x, m⟩, hr, hx⟩ := Option.map_eq_some_iff.1 h
    cases hx
    obtain ⟨read, texts, hrest, hwritten, htakes⟩ := r.isLocal g hr
    refine ⟨read, [], hrest, rfl, fun rest written hseen => ?_⟩
    simp [htakes rest [] hseen, show m.written = _ from hwritten]
  reach h := by rw [Reader.reach (c := ⟨_, []⟩) r h]

section Iterate

variable {σ : Type}

/-- At most `fuel` rounds, each of which says whether another one may follow. -/
def rounds (step : σ → Run (σ × Bool)) : (fuel : Nat) → σ → Run σ
  | 0, s, c => some (s, c)
  | fuel + 1, s, c =>
    (step s c).bind fun p =>
      if p.1.2 && decide (p.2.rest.length < c.rest.length) then rounds step fuel p.1.1 p.2
      else some (p.1.1, p.2)

theorem rounds_fuel (step : σ → Run (σ × Bool)) {fuel fuel' : Nat} (s : σ) (c : Cursor)
    (h : c.rest.length < fuel) (h' : c.rest.length < fuel') :
    rounds step fuel s c = rounds step fuel' s c := by
  induction fuel generalizing fuel' s c with
  | zero => omega
  | succ fuel ih =>
    obtain ⟨fuel', rfl⟩ : ∃ n, fuel' = n + 1 := ⟨fuel' - 1, by omega⟩
    simp only [rounds]
    refine Option.bind_congr fun p _ => ?_
    split
    case isTrue hmore =>
      have hshorter : p.2.rest.length < c.rest.length := by simp_all
      exact ih _ _ (by omega) (by omega)
    case isFalse => rfl

theorem isLocal_rounds {step : σ → Run (σ × Bool)} (h : ∀ s, (step s).IsLocal) (fuel : Nat) (s : σ)
    {c c' : Cursor} {x : σ} (hfuel : c.rest.length < fuel) (hrun : rounds step fuel s c = some (x, c')) :
    ∃ read texts, c.rest = read ++ c'.rest ∧ c'.written = texts ++ c.written ∧
      Run.Takes (fun d => rounds step (d.rest.length + 1) s d) read (seen c'.rest) x texts := by
  induction fuel generalizing s c with
  | zero => omega
  | succ fuel ih =>
    obtain ⟨⟨⟨s', more⟩, m⟩, hstep, hnext⟩ := Option.bind_eq_some_iff.1 hrun
    obtain ⟨read, texts, hrest, hwritten, htakes⟩ := h s hstep
    simp only [hrest, List.length_append, Nat.lt_add_left_iff_pos] at hnext
    split at hnext
    case isTrue hmore =>
      simp only [Bool.and_eq_true, decide_eq_true_eq] at hmore
      obtain ⟨read', texts', hrest', hwritten', htakes'⟩ :=
        ih s' (by rw [hrest, List.length_append] at hfuel; omega) hnext
      refine ⟨read ++ read', texts' ++ texts, by rw [hrest, hrest', List.append_assoc],
        by rw [hwritten', hwritten, List.append_assoc], fun rest written hseen => ?_⟩
      have hmiddle : seen (read' ++ rest) = seen m.rest := by
        rw [hrest']
        exact seen_append read' hseen
      have hagain := htakes' rest (texts ++ written) hseen
      simp only [rounds, List.append_assoc, htakes _ written hmiddle, Option.bind_some,
        List.length_append, Nat.lt_add_left_iff_pos, hmore, decide_true, Bool.and_self, if_true]
      rw [rounds_fuel step s' _ _ (Nat.lt_succ_self _)]
      · exact hagain
      · simp only [List.length_append]
        omega
    case isFalse hmore =>
      cases hnext
      refine ⟨read, texts, hrest, hwritten, fun rest written hseen => ?_⟩
      simp only [rounds, htakes rest written hseen, Option.bind_some, List.length_append,
        Nat.lt_add_left_iff_pos]
      rw [if_neg hmore]

theorem rounds_congr {step step' : σ → Run (σ × Bool)} (hlocal : ∀ s, (step' s).IsLocal)
    {c : Cursor} (h : ∀ s c', c'.size ≤ c.size → step s c' = step' s c') (fuel : Nat) (s : σ) :
    rounds step fuel s c = rounds step' fuel s c := by
  induction fuel generalizing s c with
  | zero => rfl
  | succ fuel ih =>
    simp only [rounds, h s c (Nat.le_refl _)]
    refine Option.bind_congr fun p hp => ?_
    have hsize := (hlocal s).size_le hp
    rw [ih fun s c' hc' => h s c' (Nat.le_trans hc' hsize)]

/-- Repeats a step as long as it says so and consumes something. -/
def iterate (s : σ) (step : σ → Reader (σ × Bool)) : Reader σ where
  run g c := rounds (fun s => (step s).run g) (c.rest.length + 1) s c
  isLocal g _ _ _ := isLocal_rounds (fun s => (step s).isLocal g) _ s (Nat.lt_succ_self _)
  reach h := rounds_congr (fun s => (step s).isLocal _)
    (fun s _ hsize => (step s).reach (h.mono hsize)) _ _

end Iterate

def repeatWhile (step : Reader Bool) : Reader Unit :=
  iterate () fun _ => do return ((), ← step)

/-- One more item, if there is one; says whether a comma follows it. -/
def nextItem (item : Reader α) (items : List α) : Reader (List α × Bool) := do
  if ← atEnd then return (items, false)
  let x ← item
  if ← atEnd then return (items ++ [x], false)
  operator ","
  return (items ++ [x], true)

/-- Items with commas between them up to the end, where one more comma may stand. -/
def commaSeparated (item : Reader α) : Reader (List α) := iterate [] (nextItem item)

end Reader
end DocFilter.Source
