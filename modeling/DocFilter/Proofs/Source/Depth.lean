import DocFilter.Proofs.Source.Runs

/-!
Reading does not depend on a depth. No rule begins with itself, directly or through others: until it
has consumed a token it calls constructs of a lower rank only. From this it follows that two depths
that are both enough for some tokens read the same from them, so that there is a grammar without any
bound, whose rules are those of the bounded ones and which reads what they read.
-/

namespace DocFilter.Source

/-- Two grammars that read the same from fewer than `n` tokens, and from `n` tokens too as long as
the construct is below a rank. -/
def Grammar.AgreeBelow (n rank : Nat) (f g : Grammar) : Prop :=
  ∀ k c, c.size < n ∨ (c.size = n ∧ k.rank < rank) → f.read k c = g.read k c

theorem Grammar.AgreeBelow.mono {n m rank : Nat} {f g : Grammar} (h : AgreeBelow n rank f g)
    (hm : m ≤ n) : AgreeBelow m rank f g := by
  intro k c hc
  refine h k c ?_
  omega

theorem Grammar.AgreeBelow.upTo {n m rank : Nat} {f g : Grammar} (h : AgreeBelow n rank f g)
    (hm : m < n) : AgreeUpTo m f g :=
  fun k c hc => h k c (.inl (by omega))

namespace Reader

-- the longest rules have more branches than an instance has by default
set_option synthInstance.maxSize 512

/-- Until something has been consumed, constructs below the rank alone are called. -/
class Guarded {α : Type} (rank : Nat) (r : Reader α) : Prop where
  agree {f g : Grammar} {c : Cursor} : Grammar.AgreeBelow c.size rank f g → r.run f c = r.run g c

class Consumes {α : Type} (r : Reader α) : Prop where
  shorter {g : Grammar} {c c' : Cursor} {x : α} : r.run g c = some (x, c') → c'.size < c.size

variable {α β σ : Type} {rank : Nat} {r : Reader α} {k : α → Reader β}

instance : Guarded rank (pure x : Reader α) := ⟨fun _ => rfl⟩

instance : Guarded rank (fail : Reader α) := ⟨fun _ => rfl⟩

instance : Guarded rank ahead := ⟨fun _ => rfl⟩

instance (texts : List String) : Guarded rank (write texts) := ⟨fun _ => rfl⟩

instance (count : Nat) (texts : List String) : Guarded rank (replace count texts) := ⟨fun _ => rfl⟩

theorem guarded_call {k : Construct} (h : k.rank < rank) : Guarded rank (call k) :=
  ⟨fun hagree => hagree k _ (.inr ⟨rfl, h⟩)⟩

theorem Guarded.bind (h : Guarded rank r) (hk : ∀ x, Guarded rank (k x)) :
    Guarded rank (r >>= k) where
  agree {f g c} hagree := by
    change (r.run f c).bind _ = (r.run g c).bind _
    rw [h.agree hagree]
    refine Option.bind_congr fun p hp => (hk p.1).agree (hagree.mono ?_)
    exact (r.isLocal g).size_le hp

instance [h : Guarded rank r] [hk : ∀ x, Guarded rank (k x)] : Guarded rank (r >>= k) := h.bind hk

/-- What follows a consumed token may call anything. -/
instance [Consumes r] [Guarded rank r] : Guarded rank (r >>= k) where
  agree {f g c} h := by
    change (r.run f c).bind _ = (r.run g c).bind _
    rw [Guarded.agree h]
    exact Option.bind_congr fun p hp => (k p.1).reach (h.upTo (Consumes.shorter hp))

instance {p : Prop} [Decidable p] {r' : Reader α} [Guarded rank r] [Guarded rank r'] :
    Guarded rank (if p then r else r') := by
  split <;> infer_instance

instance [Guarded rank r] : Guarded rank (discard r) :=
  inferInstanceAs (Guarded rank (r >>= fun _ => pure ()))

instance [Guarded rank r] : Guarded rank (captured r) where
  agree {f g c} h := by
    change (r.run f _).map _ = (r.run g _).map _
    rw [Guarded.agree (c := ⟨_, []⟩) h]

instance (d : Delimiter) : Guarded rank (inGroup d r) :=
  ⟨fun h => Run.within_congr fun _ hless => r.reach (h.upTo hless)⟩

instance {s : σ} {step : σ → Reader (σ × Bool)} [∀ s, Guarded rank (step s)] :
    Guarded rank (iterate s step) :=
  ⟨fun h => rounds_congr (fun s => (step s).isLocal _) (fun _ _ hsize => Guarded.agree (h.mono hsize))
    _ _⟩

instance (l : List σ) {f : σ → Reader PUnit} [∀ a, Guarded rank (f a)] :
    Guarded rank (l.forM f) := by
  induction l with
  | nil => exact inferInstanceAs (Guarded rank (pure PUnit.unit))
  | cons a l ih => exact inferInstanceAs (Guarded rank (f a >>= fun _ => l.forM f))

instance (condition : Bool) : Guarded rank (require condition) := by
  unfold require; infer_instance

instance (test : List Tree → Bool) : Guarded rank (look test) := by
  unfold look; infer_instance

instance : Guarded rank atEnd := by unfold atEnd; infer_instance

instance (count : Nat) : Guarded rank (skip count) := by unfold skip; infer_instance

instance : Guarded rank token :=
  Guarded.bind inferInstance fun ts => by cases ts <;> infer_instance

instance (op : String) : Guarded rank (operator op) := by unfold operator; infer_instance

instance (op : String) : Guarded rank (operator? op) := by unfold operator?; infer_instance

instance (name : String) : Guarded rank (keyword name) := by unfold keyword; infer_instance

instance (name : String) : Guarded rank (keyword? name) := by unfold keyword?; infer_instance

instance : Guarded rank anyWord :=
  Guarded.bind inferInstance fun tree => by cases tree <;> infer_instance

instance : Guarded rank anyGroup :=
  Guarded.bind inferInstance fun tree => by cases tree <;> infer_instance

instance : Guarded rank name := by unfold name; infer_instance

instance : Guarded rank lifetime := by unfold lifetime; infer_instance

instance : Guarded rank literal := by unfold literal; infer_instance

instance {step : Reader Bool} [Guarded rank step] : Guarded rank (repeatWhile step) := by
  unfold repeatWhile; infer_instance

instance (count : Nat) (texts : List String) : Consumes (replace count texts) where
  shorter {g c c' x} h := by
    obtain ⟨⟨hpos, hle⟩, hrest⟩ := replace_inv h
    have htaken : 0 < treesSize (c.rest.take count) := by
      cases hts : c.rest.take count with
      | nil =>
        have hlength := congrArg List.length hts
        rw [List.length_take_of_le hle, List.length_nil] at hlength
        omega
      | cons tree rest =>
        rw [treesSize]
        exact Nat.add_pos_left tree.size_pos _
    have hsize := treesSize_append (c.rest.take count) (c.rest.drop count)
    rw [List.take_append_drop] at hsize
    simp only [Cursor.size, hrest]
    omega

instance [Consumes r] : Consumes (r >>= k) where
  shorter {g c c' x} h := by
    obtain ⟨p, hr, hk⟩ := Option.bind_eq_some_iff.1 h
    exact Nat.lt_of_le_of_lt (((k p.1).isLocal g).size_le hk) (Consumes.shorter hr)

theorem Consumes.bind (h : ∀ x, Consumes (k x)) : Consumes (r >>= k) where
  shorter {g c c' x} hrun := by
    obtain ⟨p, hr, hk⟩ := Option.bind_eq_some_iff.1 hrun
    exact Nat.lt_of_lt_of_le ((h p.1).shorter hk) ((r.isLocal g).size_le hr)

instance [h : ∀ x, Consumes (k x)] : Consumes (r >>= k) := Consumes.bind h

instance {p : Prop} [Decidable p] {r' : Reader α} [Consumes r] [Consumes r'] :
    Consumes (if p then r else r') := by
  split <;> infer_instance

instance : Consumes (fail : Reader α) := ⟨by rintro _ _ _ _ ⟨⟩⟩

instance [Consumes r] : Consumes (discard r) :=
  inferInstanceAs (Consumes (r >>= fun _ => pure ()))

instance [Consumes r] : Consumes (captured r) where
  shorter {g c c' x} h := by
    have hsize := Consumes.shorter (captured_inv (x := x.1) h)
    exact hsize

instance (d : Delimiter) : Consumes (inGroup d r) where
  shorter {g c c' x} h := by
    obtain ⟨content, _, hrest, -⟩ := inGroup_inv h
    rw [Cursor.size, Cursor.size, hrest, treesSize, Tree.size]
    omega

instance (count : Nat) : Consumes (skip count) := by unfold skip; infer_instance

instance : Consumes token := Consumes.bind fun ts => by cases ts <;> infer_instance

instance (op : String) : Consumes (operator op) := by unfold operator; infer_instance

instance (name : String) : Consumes (keyword name) := by unfold keyword; infer_instance

instance : Consumes anyWord := by unfold anyWord; infer_instance

instance : Consumes anyGroup := by unfold anyGroup; infer_instance

instance : Consumes name := by unfold name; infer_instance

instance : Consumes lifetime := by unfold lifetime; infer_instance

instance : Consumes literal := by unfold literal; infer_instance

/-- What may be missing has been consumed where it is found. -/
class Finds (r : Reader Bool) : Prop where
  shorter {g : Grammar} {c c' : Cursor} : r.run g c = some (true, c') → c'.size < c.size

theorem finds_of_test (test : List Tree → Bool) (r : Reader PUnit) [Consumes r] :
    Finds (do
      if test (← ahead) then
        r
        return true
      else return false) where
  shorter {g c c'} h := by
    simp only [run_bind_eq_some, run_ahead_eq_some] at h
    obtain ⟨_, _, ⟨-, rfl⟩, h⟩ := h
    split at h
    case isTrue =>
      obtain ⟨_, _, hr, hpure⟩ := run_bind_eq_some.1 h
      cases hpure
      exact Consumes.shorter hr
    case isFalse => cases h

instance (op : String) : Finds (operator? op) := finds_of_test (atOp op) (operator op)

instance (name : String) : Finds (keyword? name) := finds_of_test (atWord name) (discard token)

instance {r : Reader Bool} {k : Bool → Reader β} [Finds r] [Guarded rank r]
    [h : Guarded rank (k false)] : Guarded rank (r >>= k) where
  agree {f g c} hagree := by
    change (r.run f c).bind _ = (r.run g c).bind _
    rw [Guarded.agree hagree]
    refine Option.bind_congr fun p hp => ?_
    obtain ⟨found, m⟩ := p
    cases found with
    | false => exact h.agree (hagree.mono ((r.isLocal g).size_le hp))
    | true => exact (k true).reach (hagree.upTo (Finds.shorter hp))

instance {r' : Reader α} [h : Guarded rank r'] : Guarded rank (if false = true then r else r') := h

instance {r' : Reader α} [h : Guarded rank r] : Guarded rank (if (!false) = true then r else r') := h

instance : Guarded rank moduleWord := by unfold moduleWord; infer_instance

instance : Guarded rank modulePath := by unfold modulePath; infer_instance

instance (inExpression : Bool) : Guarded rank (pathSegment inExpression) := by
  unfold pathSegment; infer_instance

instance (inExpression : Bool) : Consumes (pathSegment inExpression) := by
  unfold pathSegment; infer_instance

instance (inExpression : Bool) : Guarded rank (path inExpression) := by
  unfold path; infer_instance

instance (inExpression : Bool) : Consumes (path inExpression) := by
  unfold path; infer_instance

instance (inExpression : Bool) : Guarded rank (qualifiedPath inExpression) := by
  unfold qualifiedPath; infer_instance

instance (inExpression : Bool) : Consumes (qualifiedPath inExpression) := by
  unfold qualifiedPath; infer_instance

instance {r : Reader Unit} [Guarded rank r] : Guarded rank (unmarked r) := by
  unfold unmarked; infer_instance

instance : Guarded rank outerAttribute := by unfold outerAttribute; infer_instance

instance : Guarded rank outerAttribute? := by unfold outerAttribute?; infer_instance

instance : Guarded rank outerAttributes := by unfold outerAttributes; infer_instance

instance : Guarded rank attributedBlock := by unfold attributedBlock; infer_instance

instance : Guarded rank macroCall := by unfold macroCall; infer_instance

instance (part : Reader Bool) : Guarded rank (angled part) := by unfold angled; infer_instance

instance : Guarded rank boundLifetimes? := by unfold boundLifetimes?; infer_instance

instance (plus : Bool) : Guarded rank (returnType plus) := by unfold returnType; infer_instance

instance : Guarded rank functionArguments := by unfold functionArguments; infer_instance

instance : Guarded rank typePath := by unfold typePath; infer_instance

instance : Consumes typePath := by unfold typePath; infer_instance

instance (const : Bool) : Guarded rank (traitBound const) := by unfold traitBound; infer_instance

instance (capture const : Bool) : Guarded rank (bound capture const) := by
  unfold bound; infer_instance

instance : Guarded rank functionPointer := by unfold functionPointer; infer_instance

instance (plus forAll : Bool) : Guarded rank (pathType plus forAll) := by
  unfold pathType; infer_instance

instance : Guarded rank patternEnd := by unfold patternEnd; infer_instance

instance : Guarded rank patternRange := by unfold patternRange; infer_instance

instance : Guarded rank pathPattern := by unfold pathPattern; infer_instance

instance : Guarded rank bindingPattern := by unfold bindingPattern; infer_instance

instance : Guarded rank openPattern := by unfold openPattern; infer_instance

instance : Guarded rank slicePattern := by unfold slicePattern; infer_instance

instance : Guarded rank singlePattern := by unfold singlePattern; infer_instance

instance (capture const : Bool) : Guarded (rank + 1) (call (.bound capture const)) :=
  guarded_call (Nat.succ_pos _)

instance (plus capture : Bool) : Guarded (rank + 1) (traitBounds plus capture) := by
  unfold traitBounds; infer_instance

instance : Guarded rank parenType := by unfold parenType; infer_instance

instance : Consumes parenType := by unfold parenType; infer_instance

instance (plus : Bool) : Guarded (rank + 1) (type plus) := by
  unfold type; infer_instance

instance : Guarded (rank + 1) (call .singlePattern) := guarded_call (Nat.succ_pos _)

instance : Guarded (rank + 1) pattern := by unfold pattern; infer_instance

instance (structs : Bool) : Guarded rank (rangeRest structs) := by
  unfold rangeRest; infer_instance

instance (structs : Bool) (least : Precedence) (left : Form) :
    Guarded rank (nextOperator structs least left) :=
  Guarded.bind inferInstance fun ts => by
    split
    · infer_instance
    · split <;> infer_instance

instance (left : Form) (structs : Bool) (least : Precedence) :
    Guarded rank (operators left structs least) := by
  unfold operators; infer_instance

instance (structs : Bool) : Guarded (rank + 1) (call (.unary structs)) :=
  guarded_call (Nat.succ_pos _)

instance (left : Form) (structs : Bool) (least : Precedence) :
    Guarded (rank + 1) (call (.operators left structs least)) :=
  guarded_call (Nat.succ_pos _)

instance (structs : Bool) (precedence : Precedence) :
    Guarded (rank + 1) (operand structs precedence) := by
  unfold operand; infer_instance

instance : Guarded rank callArguments := by unfold callArguments; infer_instance

instance : Guarded rank memberAccess := by unfold memberAccess; infer_instance

instance (form : Form) : Guarded rank (nextTrailer form) := by unfold nextTrailer; infer_instance

instance (form : Form) : Guarded rank (trailers form) := by unfold trailers; infer_instance

instance (structs : Bool) : Guarded rank (pathExpression structs) := by
  unfold pathExpression; infer_instance

instance (structs : Bool) : Guarded rank (closure structs) := by unfold closure; infer_instance

instance : Guarded rank array := by unfold array; infer_instance

instance (structs : Bool) : Guarded rank (letCondition structs) := by unfold letCondition; infer_instance

instance : Guarded rank conditional := by unfold conditional; infer_instance

instance : Guarded rank choice := by unfold choice; infer_instance

instance : Guarded rank loopExpression := by unfold loopExpression; infer_instance

instance : Guarded rank blockExpression := by unfold blockExpression; infer_instance

instance (structs : Bool) : Guarded rank (atom structs) := by
  unfold atom; infer_instance

instance (structs : Bool) : Guarded rank (unary structs) := by
  unfold unary; infer_instance

instance (structs : Bool) : Guarded (rank + 1) (expression structs) := by
  unfold expression; infer_instance

instance : Guarded (rank + 2) bounded := by
  have : Guarded (rank + 2) (call (.expression true)) := guarded_call (Nat.succ_lt_succ (Nat.succ_pos _))
  unfold bounded; infer_instance

instance : Guarded rank block := by unfold block; infer_instance

instance : Guarded rank binding := by unfold binding; infer_instance

instance : Guarded (rank + 3) statement := by
  have : Guarded (rank + 3) (call .item) := guarded_call (Nat.succ_pos _)
  have : Guarded (rank + 3) (call .bounded) := guarded_call (Nat.lt_add_left _ (by decide))
  unfold statement; infer_instance

instance : Guarded (rank + 3) statements := by unfold statements; infer_instance

instance : Guarded rank genericArguments := by unfold genericArguments; infer_instance

instance : Guarded rank namedFields := by unfold namedFields; infer_instance

instance (rooted : Bool) : Guarded rank (imports rooted) := by unfold imports; infer_instance

instance : Guarded rank visibility := by unfold visibility; infer_instance

instance : Guarded rank declaration := by unfold declaration; infer_instance

instance : Guarded rank functionWords := by unfold functionWords; infer_instance

instance : Guarded rank function := by unfold function signature; infer_instance

instance : Guarded rank constant := by unfold constant; infer_instance

instance : Guarded rank staticItem := by unfold staticItem; infer_instance

instance (associated : Bool) : Guarded rank (typeItem associated) := by
  unfold typeItem; infer_instance

instance : Guarded rank useItem := by unfold useItem; infer_instance

instance : Guarded rank externalCrate := by unfold externalCrate; infer_instance

instance : Guarded rank macroItem := by unfold macroItem; infer_instance

instance : Guarded rank traitItem := by unfold traitItem; infer_instance

instance : Guarded rank implementation := by unfold implementation; infer_instance

instance : Guarded rank moduleItem := by unfold moduleItem; infer_instance

instance : Guarded rank foreignItems := by unfold foreignItems; infer_instance

instance : Guarded rank macroDefinition := by unfold macroDefinition; infer_instance

instance : Guarded rank item := by
  unfold item; infer_instance

end Reader

/-- No rule begins with a construct that does not rank below its own. -/
theorem guarded_rule : (k : Construct) → Reader.Guarded k.rank (rule k)
  | .expression structs => inferInstanceAs (Reader.Guarded (0 + 1) (Reader.expression structs))
  | .unary structs => inferInstanceAs (Reader.Guarded 0 (Reader.unary structs))
  | .operators left structs least =>
    inferInstanceAs (Reader.Guarded 0 (Reader.operators left structs least))
  | .operand structs precedence =>
    inferInstanceAs (Reader.Guarded (0 + 1) (Reader.operand structs precedence))
  | .bounded => inferInstanceAs (Reader.Guarded (0 + 2) Reader.bounded)
  | .pattern => inferInstanceAs (Reader.Guarded (0 + 1) Reader.pattern)
  | .singlePattern => inferInstanceAs (Reader.Guarded 0 Reader.singlePattern)
  | .type plus => inferInstanceAs (Reader.Guarded (0 + 1) (Reader.type plus))
  | .bound capture const => inferInstanceAs (Reader.Guarded 0 (Reader.bound capture const))
  | .genericArguments => inferInstanceAs (Reader.Guarded 0 Reader.genericArguments)
  | .block => inferInstanceAs (Reader.Guarded 0 (Reader.unmarked Reader.block))
  | .statements => inferInstanceAs (Reader.Guarded (0 + 3) (Reader.unmarked Reader.statements))
  | .item => inferInstanceAs (Reader.Guarded 0 (Reader.unmarked Reader.item))
  | .fields => inferInstanceAs (Reader.Guarded 0 (Reader.unmarked (discard Reader.namedFields)))
  | .imports rooted => inferInstanceAs (Reader.Guarded 0 (Reader.unmarked (Reader.imports rooted)))

/-- The depth at which a construct is read for sure: no chain of calls is longer that goes on to fewer
tokens, or to a lower rank with the same tokens. -/
def enough (k : Construct) (c : Cursor) : Nat := Construct.ranks * c.size + k.rank + 1

/-- Where the depth is enough, more depth changes nothing. -/
theorem grammarUpTo_read_eq {k : Construct} {c : Cursor} {depth depth' : Nat}
    (h : enough k c ≤ depth) (h' : enough k c ≤ depth') :
    (grammarUpTo depth).read k c = (grammarUpTo depth').read k c := by
  induction depth generalizing depth' k c with
  | zero => exact absurd h (Nat.not_succ_le_zero _)
  | succ depth ih =>
    obtain ⟨depth', rfl⟩ : ∃ n, depth' = n + 1 := ⟨depth' - 1, by rw [enough] at h'; omega⟩
    refine (guarded_rule k).agree fun k' c' hbelow => ?_
    have hrank := k'.rank_lt
    have hless : enough k' c' < enough k c := by
      simp only [enough, Construct.ranks] at hrank ⊢
      omega
    exact ih (by omega) (by omega)

def grammar : Grammar where
  read k c := (grammarUpTo (enough k c)).read k c
  isLocal k := by
    intro c x c' h
    obtain ⟨read, texts, hrest, hwritten, -⟩ := (grammarUpTo (enough k c)).isLocal k h
    refine ⟨read, texts, hrest, hwritten, fun rest written hseen => ?_⟩
    -- one depth that is enough before and after the tokens that follow are exchanged
    let depth := enough k c + enough k ⟨read ++ rest, written⟩
    change (grammarUpTo (enough k c)).read k c = _ at h
    rw [grammarUpTo_read_eq (Nat.le_refl _) (Nat.le_add_right _ _ : _ ≤ depth)] at h
    obtain ⟨read', texts', hrest', hwritten', htakes⟩ := (grammarUpTo depth).isLocal k h
    obtain rfl := List.append_cancel_right (hrest.symm.trans hrest')
    obtain rfl := List.append_cancel_right (hwritten.symm.trans hwritten')
    change (grammarUpTo (enough k ⟨read ++ rest, written⟩)).read k _ = _
    rw [grammarUpTo_read_eq (Nat.le_refl _) (Nat.le_add_left _ _ : _ ≤ depth)]
    exact htakes rest written hseen

theorem grammar_read_eq {k : Construct} {c : Cursor} {depth : Nat} (h : enough k c ≤ depth) :
    (grammarUpTo depth).read k c = grammar.read k c :=
  grammarUpTo_read_eq h (Nat.le_refl _)

/-- Every construct is read by its rule. -/
theorem grammar_read (k : Construct) : grammar.read k = (rule k).run grammar := by
  funext c
  refine (guarded_rule k).agree fun k' c' hbelow => grammar_read_eq ?_
  have hrank := k'.rank_lt
  simp only [enough, Construct.ranks] at hrank ⊢
  omega

theorem Reader.run_call (k : Construct) (c : Cursor) :
    (Reader.call k).run grammar c = (rule k).run grammar c :=
  congrFun (grammar_read k) c

/-- The depth that is chosen for some tokens is enough for them and for all that is left of them. -/
theorem Reader.run_grammarFor {α : Type} (r : Reader α) {ts : List Tree} {c : Cursor}
    (h : c.size ≤ treesSize ts) : r.run (grammarFor ts) c = r.run grammar c := by
  refine r.reach fun k c' hsize => grammar_read_eq ?_
  have hrank := k.rank_lt
  simp only [enough, Construct.ranks] at hrank ⊢
  omega

end DocFilter.Source
