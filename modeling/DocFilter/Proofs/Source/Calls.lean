import DocFilter.Proofs.Source.Reading

/-!
Values that are calls of one word. Only tokens of one shape are read as such a call: attributes, the
word, and parentheses with the arguments. No other construct is told apart by its form, so the proofs
follow the readers on the way from an expression to the first segment of a path, and say of every
other way only that it gives another form.
-/

namespace DocFilter.Source

/-- Hash signs with brackets after them. -/
inductive Attributes : List Tree → Prop where
  | none : Attributes []
  | more (joint : Bool) (content : List Tree) {rest : List Tree} :
      Attributes rest → Attributes (.punct '#' joint :: .group .bracket content :: rest)

/-- Attributes end where no further hash sign stands. -/
theorem Attributes.append_inj {front front' rest rest' : List Tree} (h : Attributes front)
    (h' : Attributes front') (hrest : atOp "#" (seen rest) = false)
    (hrest' : atOp "#" (seen rest') = false)
    (heq : front ++ rest = front' ++ rest') : front = front' ∧ rest = rest' := by
  induction h generalizing front' with
  | none =>
    cases h' with
    | none => exact ⟨rfl, heq⟩
    | more joint content _ =>
      obtain rfl : rest = _ := heq
      cases hrest
  | more joint content h ih =>
    cases h' with
    | none =>
      obtain rfl : _ = rest' := heq
      cases hrest'
    | more joint' content' h' =>
      simp only [List.cons_append, List.cons.injEq, Tree.punct.injEq, Tree.group.injEq,
        true_and] at heq
      obtain ⟨rfl, rfl, heq⟩ := heq
      obtain ⟨rfl, rfl⟩ := ih h' heq
      exact ⟨rfl, rfl⟩

namespace Reader

variable {g : Grammar} {c c' : Cursor}

theorem outerAttribute_inv {u : Unit} (h : outerAttribute.run g c = some (u, c')) :
    ∃ joint content, c.rest = .punct '#' joint :: .group .bracket content :: c'.rest := by
  simp only [outerAttribute, run_bind_eq_some] at h
  obtain ⟨_, m, hsign, h⟩ := h
  obtain ⟨content, _, hgroup, -⟩ := inGroup_inv h
  obtain ⟨joint, hrest⟩ := sign_inv '#' rfl hsign
  exact ⟨joint, content, by rw [hrest, hgroup]⟩

theorem outerAttribute?_inv {more : Bool} (h : outerAttribute?.run g c = some (more, c')) :
    (more = false ∧ c = c' ∧ atOp "#" (seen c.rest) = false) ∨
      (more = true ∧
        ∃ joint content, c.rest = .punct '#' joint :: .group .bracket content :: c'.rest) := by
  simp only [outerAttribute?, run_bind_eq_some, run_look_eq_some] at h
  obtain ⟨_, _, ⟨rfl, rfl⟩, h⟩ := h
  split at h
  case isTrue =>
    obtain ⟨_, _, hattribute, hpure⟩ := run_bind_eq_some.1 h
    cases hpure
    exact .inr ⟨rfl, outerAttribute_inv hattribute⟩
  case isFalse hat =>
    cases h
    exact .inl ⟨rfl, rfl, by simpa using hat⟩

theorem outerAttributes_inv {b : Bool} (h : outerAttributes.run g c = some (b, c')) :
    ∃ attributes, Attributes attributes ∧ c.rest = attributes ++ c'.rest ∧
      atOp "#" (seen c'.rest) = false := by
  simp only [outerAttributes, repeatWhile, run_bind_eq_some, run_look_eq_some] at h
  obtain ⟨_, _, ⟨-, rfl⟩, _, _, hrounds, hpure⟩ := h
  cases hpure
  refine iterate_induction (P := fun _ c => ∃ attributes, Attributes attributes ∧
    c.rest = attributes ++ c'.rest ∧ atOp "#" (seen c'.rest) = false)
    (fun hstep hlast => ?_) (fun hstep hmore => ?_) hrounds
  · obtain ⟨more, _, hstep, hpure⟩ := run_bind_eq_some.1 hstep
    cases hpure
    rcases outerAttribute?_inv hstep with ⟨rfl, rfl, hend⟩ | ⟨rfl, joint, content, hrest⟩
    · exact ⟨[], .none, rfl, hend⟩
    · have hlength := hlast rfl
      rw [hrest, List.length_cons, List.length_cons] at hlength
      omega
  · obtain ⟨_, _, hstep, hpure⟩ := run_bind_eq_some.1 hstep
    cases hpure
    obtain ⟨attributes, hattributes, hrest', hend⟩ := hmore
    rcases outerAttribute?_inv hstep with ⟨hfalse, -⟩ | ⟨-, joint, content, hrest⟩
    · cases hfalse
    · exact ⟨_, hattributes.more joint content, by rw [hrest, hrest']; rfl, hend⟩

theorem pathSegment_inv {inExpression : Bool} {text : String}
    (h : (pathSegment inExpression).run g c = some ((text, true), c')) :
    ∃ n : Name, c.rest = .word n.text n.raw :: c'.rest ∧ text = n.written := by
  simp only [pathSegment, run_bind_eq_some, run_ahead_eq_some] at h
  obtain ⟨_, _, ⟨rfl, rfl⟩, h⟩ := h
  split at h
  case isTrue =>
    obtain ⟨n, _, hword, hpure⟩ := run_bind_eq_some.1 h
    cases hpure
    exact ⟨n, anyWord_inv hword, rfl⟩
  case isFalse =>
    simp only [run_bind_eq_some, run_ahead_eq_some] at h
    obtain ⟨n, _, hword, _, _, ⟨rfl, rfl⟩, h⟩ := h
    split at h
    case isTrue =>
      obtain ⟨_, _, -, hpure⟩ := run_bind_eq_some.1 h
      cases hpure
    case isFalse =>
      cases h
      rcases run_ite_inv hword with hword | hword
      · exact ⟨n, anyWord_inv hword, rfl⟩
      · exact ⟨n, name_inv hword, rfl⟩

theorem nextSegment_inv {inExpression more : Bool} {route next : Route}
    (h : (nextSegment inExpression route).run g c = some ((next, more), c')) :
    (next = route ∧ c = c' ∧ more = false) ∨ next.segments = route.segments + 1 := by
  simp only [nextSegment, run_bind_eq_some, run_ahead_eq_some] at h
  obtain ⟨_, _, ⟨rfl, rfl⟩, h⟩ := h
  split at h
  case isTrue =>
    simp only [run_bind_eq_some] at h
    obtain ⟨_, _, -, _, _, -, hpure⟩ := h
    cases hpure
    exact .inr rfl
  case isFalse =>
    cases h
    exact .inl ⟨rfl, rfl, rfl⟩

theorem pathRest_inv {inExpression : Bool} {route route' : Route}
    (h : (pathRest inExpression route).run g c = some (route', c')) :
    (route' = route ∧ c = c') ∨ route.segments < route'.segments := by
  refine iterate_induction
    (P := fun route c => (route' = route ∧ c = c') ∨ route.segments < route'.segments)
    (fun hstep _ => ?_) (fun hstep hmore => ?_) h
  · rcases nextSegment_inv hstep with ⟨rfl, rfl, -⟩ | hnext
    · exact .inl ⟨rfl, rfl⟩
    · exact .inr (by omega)
  · rcases nextSegment_inv hstep with ⟨-, -, hfalse⟩ | hnext
    · cases hfalse
    · rcases hmore with ⟨rfl, -⟩ | hmore
      all_goals exact .inr (by omega)

theorem path_inv {inExpression : Bool} {route : Route}
    (h : (path inExpression).run g c = some (route, c')) (hleading : route.leading = false)
    (hplain : route.plain = true) (hsegments : route.segments = 1) :
    ∃ n : Name, c.rest = .word n.text n.raw :: c'.rest ∧ route.text = n.written := by
  simp only [path, run_bind_eq_some] at h
  obtain ⟨leading, _, hoperator, ⟨text, bare⟩, _, hsegment, hrest⟩ := h
  rcases pathRest_inv hrest with ⟨rfl, rfl⟩ | hless
  · obtain rfl : leading = false := hleading
    obtain rfl : bare = true := hplain
    obtain rfl := operator?_inv hoperator
    exact pathSegment_inv hsegment
  · exact absurd hless (by simp [hsegments])

theorem qualifiedPath_inv {inExpression : Bool} {route : Route}
    (h : (qualifiedPath inExpression).run g c = some ((false, route), c')) :
    (path inExpression).run g c = some (route, c') := by
  simp only [qualifiedPath, run_bind_eq_some, run_look_eq_some] at h
  obtain ⟨_, _, ⟨rfl, rfl⟩, h⟩ := h
  split at h
  case isTrue =>
    simp only [run_bind_eq_some] at h
    obtain ⟨_, _, -, _, _, -, _, _, -, h⟩ := h
    split at h
    all_goals
      simp only [run_bind_eq_some, run_pure_eq_some, Prod.mk.injEq, Bool.true_eq_false, false_and,
        and_false, exists_false] at h
  case isFalse =>
    obtain ⟨_, _, hpath, hpure⟩ := run_bind_eq_some.1 h
    cases hpure
    exact hpath

/-- An expression that begins with a path is named by it only if that is all there is. -/
theorem pathExpression_inv {structs : Bool} {form : Form}
    (h : (pathExpression structs).run g c = some (form, c')) :
    form ∈ [.other, .braceMacro] ∨
      ∃ n : Name, form = .name n.written ∧ c.rest = .word n.text n.raw :: c'.rest := by
  simp only [pathExpression, run_bind_eq_some, run_ahead_eq_some] at h
  obtain ⟨⟨qualified, route⟩, _, hpath, _, _, ⟨rfl, rfl⟩, h⟩ := h
  split at h
  case isTrue =>
    simp only [run_bind_eq_some] at h
    obtain ⟨_, _, -, hpure⟩ := h
    cases hpure
    split <;> simp
  case isFalse =>
    split at h
    case isTrue =>
      simp only [run_bind_eq_some] at h
      obtain ⟨_, _, -, hpure⟩ := h
      cases hpure
      simp
    case isFalse =>
      split at h
      case isTrue hname =>
        cases h
        simp only [Bool.and_eq_true, Bool.not_eq_true', beq_iff_eq] at hname
        obtain ⟨⟨⟨rfl, hleading⟩, hplain⟩, hsegments⟩ := hname
        obtain ⟨n, hrest, htext⟩ := path_inv (qualifiedPath_inv hpath) hleading hplain hsegments
        exact .inr ⟨n, by rw [htext], hrest⟩
      case isFalse =>
        cases h
        simp

/-- Before anything that follows it directly, no value is a call, and only a word is named. -/
theorem atom_inv {structs : Bool} {form : Form}
    (h : (atom structs).run g c = some (form, c')) :
    form ∈ [.other, .braceMacro, .block, .range] ∨ (∃ text, form = .literal text) ∨
      ∃ n : Name, form = .name n.written ∧ c.rest = .word n.text n.raw :: c'.rest := by
  simp only [atom, run_bind_eq_some, run_ahead_eq_some] at h
  obtain ⟨_, _, ⟨rfl, rfl⟩, h⟩ := h
  rcases run_ite_inv h with h | h
  · obtain ⟨_, _, -, h⟩ := run_bind_eq_some.1 h
    split at h
    · cases h
      exact .inr (.inl ⟨_, rfl⟩)
    · cases h
      exact .inl (by simp)
  iterate 4
    rcases run_ite_inv h with h | h
    · exact .inl (by simp [run_then_inv h])
  rcases run_ite_inv h with h | h
  · rcases pathExpression_inv h with hform | hname
    · simp only [List.mem_cons, List.not_mem_nil, or_false] at hform
      rcases hform with rfl | rfl <;> simp
    · exact .inr (.inr hname)
  iterate 4
    rcases run_ite_inv h with h | h
    · exact .inl (by simp [run_then_inv h])
  -- the words that begin the remaining constructs are looked for one after the other
  iterate 5
    obtain ⟨_, _, -, h⟩ := run_bind_eq_some.1 h
    rcases run_ite_inv h with h | h
    · exact .inl (by simp [run_then_inv h])
  exact .inl (by simp [run_then_inv h])

/-- Parentheses make a call of a value, and everything else something that is none. -/
theorem nextTrailer_inv {form next : Form} {more : Bool}
    (h : (nextTrailer form).run g c = some ((next, more), c')) :
    (next = form ∧ c = c' ∧ more = false) ∨ next = .other ∨
      ∃ arguments, next = .call form.callee? arguments ∧
        callArguments.run g c = some (arguments, c') := by
  simp only [nextTrailer, run_bind_eq_some, run_ahead_eq_some] at h
  obtain ⟨_, _, ⟨rfl, rfl⟩, h⟩ := h
  rcases run_ite_inv h with h | h
  · obtain ⟨arguments, _, harguments, hpure⟩ := run_bind_eq_some.1 h
    cases hpure
    exact .inr (.inr ⟨arguments, rfl, harguments⟩)
  iterate 3
    rcases run_ite_inv h with h | h
    · obtain ⟨_, _, -, hpure⟩ := run_bind_eq_some.1 h
      cases hpure
      exact .inr (.inl rfl)
  cases h
  exact .inl ⟨rfl, rfl, rfl⟩

theorem Form.eq_name_of_callee? {form : Form} {callee : String}
    (h : form.callee? = some callee) : form = .name callee := by
  cases form with
  | name text =>
    cases h
    rfl
  | _ => cases h

/-- A call of a word is a path that is named, with one pair of parentheses after it. -/
theorem trailers_inv {form : Form} {callee : String} {arguments : List (List String)}
    (h : (trailers form).run g c = some (.call (some callee) arguments, c')) :
    (form = .call (some callee) arguments ∧ c = c') ∨
      (form = .name callee ∧ callArguments.run g c = some (arguments, c')) := by
  refine iterate_induction (P := fun form c => (form = .call (some callee) arguments ∧ c = c') ∨
    (form = .name callee ∧ callArguments.run g c = some (arguments, c')))
    (fun hstep _ => ?_) (fun hstep hmore => ?_) h
  · rcases nextTrailer_inv hstep with ⟨rfl, rfl, -⟩ | hother | ⟨_, hcall, harguments⟩
    · exact .inl ⟨rfl, rfl⟩
    · cases hother
    · obtain ⟨hcallee, rfl⟩ := Form.call.inj hcall
      exact .inr ⟨Form.eq_name_of_callee? hcallee.symm, harguments⟩
  · rcases nextTrailer_inv hstep with ⟨-, -, hfalse⟩ | rfl | ⟨_, rfl, harguments⟩
    · cases hfalse
    · rcases hmore with ⟨hcall, -⟩ | ⟨hname, -⟩
      · cases hcall
      · cases hname
    · rcases hmore with ⟨hcall, rfl⟩ | ⟨hname, -⟩
      · obtain ⟨hcallee, rfl⟩ := Form.call.inj hcall
        exact .inr ⟨Form.eq_name_of_callee? hcallee, harguments⟩
      · cases hname

/-- An operator makes something of a value that has another form. -/
theorem nextOperator_inv {structs more : Bool} {least : Precedence} {left next : Form}
    (h : (nextOperator structs least left).run g c = some ((next, more), c')) :
    (next = left ∧ c = c' ∧ more = false) ∨ next ∈ [.comparison, .other, .range] := by
  simp only [nextOperator, run_bind_eq_some, run_ahead_eq_some] at h
  obtain ⟨_, _, ⟨rfl, rfl⟩, h⟩ := h
  rcases run_ite_inv h with h | h
  · cases h
    exact .inl ⟨rfl, rfl, rfl⟩
  split at h
  · rcases run_ite_inv h with h | h
    · cases h
      exact .inl ⟨rfl, rfl, rfl⟩
    · simp only [run_bind_eq_some] at h
      obtain ⟨_, _, -, _, _, -, _, _, -, hpure⟩ := h
      cases hpure
      split <;> simp
  · rcases run_ite_inv h with h | h
    · simp only [run_bind_eq_some] at h
      obtain ⟨_, _, -, _, _, -, hpure⟩ := h
      cases hpure
      simp
    rcases run_ite_inv h with h | h
    · obtain ⟨_, _, -, hpure⟩ := run_bind_eq_some.1 h
      cases hpure
      simp
    rcases run_ite_inv h with h | h
    · simp only [run_bind_eq_some] at h
      obtain ⟨_, _, -, _, _, -, _, _, -, _, _, -, hpure⟩ := h
      cases hpure
      simp
    cases h
    exact .inl ⟨rfl, rfl, rfl⟩

theorem operators_inv {structs : Bool} {least : Precedence} {left form : Form}
    (h : (operators left structs least).run g c = some (form, c')) :
    (form = left ∧ c = c') ∨ form ∈ [.comparison, .other, .range] := by
  refine iterate_induction
    (P := fun left c => (form = left ∧ c = c') ∨ form ∈ [.comparison, .other, .range])
    (fun hstep _ => ?_) (fun hstep hmore => ?_) h
  · rcases nextOperator_inv hstep with ⟨rfl, rfl, -⟩ | hform
    · exact .inl ⟨rfl, rfl⟩
    · exact .inr hform
  · rcases nextOperator_inv hstep with ⟨-, -, hfalse⟩ | hnext
    · cases hfalse
    · rcases hmore with ⟨rfl, -⟩ | hform
      · exact .inr hnext
      · exact .inr hform

/-- What is read as a call of a word is attributes, the word, and parentheses with the arguments. -/
theorem unary_inv {structs : Bool} {callee : String} {arguments : List (List String)}
    (h : (unary structs).run g c = some (.call (some callee) arguments, c')) :
    ∃ (attributes : List Tree) (n : Name) (m : Cursor), Attributes attributes ∧
      c.rest = attributes ++ .word n.text n.raw :: m.rest ∧ callee = n.written ∧
      callArguments.run g m = some (arguments, c') := by
  simp only [unary, run_bind_eq_some, run_ahead_eq_some] at h
  obtain ⟨_, m, hattributes, _, _, ⟨rfl, rfl⟩, h⟩ := h
  obtain ⟨attributes, hfront, hrest, -⟩ := outerAttributes_inv hattributes
  rcases run_ite_inv h with h | h
  · simp only [run_bind_eq_some, run_ahead_eq_some] at h
    obtain ⟨_, _, -, _, _, ⟨rfl, rfl⟩, h⟩ := h
    rcases run_ite_inv h with h | h
    all_goals
      simp only [run_bind_eq_some, run_pure_eq_some, reduceCtorEq, false_and, and_false,
        exists_false] at h
  rcases run_ite_inv h with h | h
  · simp only [run_bind_eq_some, run_pure_eq_some, reduceCtorEq, false_and, and_false,
      exists_false] at h
  simp only [run_bind_eq_some, run_require_eq_some, run_pure_eq_some] at h
  obtain ⟨form, _, hatom, _, _, htrailers, _, _, ⟨-, rfl⟩, rfl, rfl⟩ := h
  rcases trailers_inv htrailers with ⟨rfl, rfl⟩ | ⟨rfl, harguments⟩
  · rcases atom_inv hatom with hform | ⟨_, hform⟩ | ⟨_, hform, -⟩
    · simp at hform
    · cases hform
    · cases hform
  · rcases atom_inv hatom with hform | ⟨_, hform⟩ | ⟨n, hname, hword⟩
    · simp at hform
    · cases hform
    · cases hname
      exact ⟨attributes, n, _, hfront, by rw [hrest, hword], rfl, harguments⟩

/-- The tokens are an expression where `ending` follows them, and `texts` is how it is written. -/
def IsExpression (form : Form) (ts ending : List Tree) (texts : List String) : Prop :=
  (call (.expression true)).run grammar ⟨ts ++ ending, []⟩ = some (form, ⟨ending, texts.reverse⟩)

namespace IsExpression

variable {form form' : Form} {ts ending ending' : List Tree} {texts texts' : List String}

/-- What an expression is, and how it is written, is fixed by its tokens. -/
theorem unique (h : IsExpression form ts ending texts) (h' : IsExpression form' ts ending texts') :
    form = form' ∧ texts = texts' := by
  simpa using (show some _ = some _ from h.symm.trans h')

/-- What follows behind a comma makes no difference. -/
theorem of_seen_eq (h : IsExpression form ts ending texts) (hseen : seen ending' = seen ending) :
    IsExpression form ts ending' texts := by
  obtain ⟨read, written, hrest, hwritten, htakes⟩ := (call (.expression true)).isLocal grammar h
  obtain rfl : ts = read := List.append_cancel_right hrest
  obtain rfl : texts.reverse = written := by simpa using hwritten
  simpa [IsExpression] using htakes ending' [] hseen

end IsExpression

/-- What stands between parentheses is one argument: an expression, and perhaps a comma. -/
def OneArgument (content : List Tree) (argument : List String) : Prop :=
  ∃ form value ending, content = value ++ ending ∧
    (ending = [] ∨ ∃ joint, ending = [.punct ',' joint]) ∧ IsExpression form value ending argument

theorem callArguments_inv {argument : List String}
    (h : callArguments.run grammar c = some ([argument], c')) :
    ∃ content, c.rest = .group .paren content :: c'.rest ∧ OneArgument content argument := by
  obtain ⟨content, _, hrest, hinside⟩ := inGroup_inv h
  obtain ⟨m, hargument, hending⟩ := commaSeparated_singleton_inv hinside
  simp only [run_bind_eq_some] at hargument
  obtain ⟨⟨form, texts⟩, m', hcaptured, _, _, hwrite, hpure⟩ := hargument
  cases hwrite
  cases hpure
  have hrun := captured_inv hcaptured
  obtain ⟨value, hvalue⟩ := ((call (.expression true)).isLocal grammar).suffix hrun
  refine ⟨content, hrest, form, value, m'.rest, hvalue.symm, hending, ?_⟩
  rw [IsExpression, hvalue]
  exact hrun

theorem call_inv {callee : String} {argument : List String}
    (h : (call (.expression true)).run grammar c = some (.call (some callee) [argument], c')) :
    ∃ (attributes : List Tree) (n : Name) (content : List Tree), Attributes attributes ∧
      c.rest = attributes ++ .word n.text n.raw :: .group .paren content :: c'.rest ∧
      callee = n.written ∧ OneArgument content argument := by
  rw [run_call] at h
  obtain ⟨left, m, hunary, hoperators⟩ := run_bind_eq_some.1 h
  rw [run_call] at hunary hoperators
  rcases operators_inv hoperators with ⟨rfl, rfl⟩ | hform
  · obtain ⟨attributes, n, m', hfront, hrest, hcallee, harguments⟩ := unary_inv hunary
    obtain ⟨content, hgroup, hargument⟩ := callArguments_inv harguments
    exact ⟨attributes, n, content, hfront, by rw [hrest, hgroup], hcallee, hargument⟩
  · simp at hform

theorem expression_ne_nil {form : Form}
    (h : (call (.expression true)).run grammar c = some (form, c')) : c.rest ≠ [] := by
  obtain ⟨rest, written⟩ := c
  rintro rfl
  rw [run_call] at h
  obtain ⟨left, m, hunary, -⟩ := run_bind_eq_some.1 h
  have hnone : (rule (.unary true)).run grammar ⟨[], written⟩ = none := rfl
  rw [run_call, hnone] at hunary
  cases hunary

theorem reads_callArguments {content rest : List Tree} {argument : List String}
    (h : OneArgument content argument) :
    Reads callArguments (.group .paren content :: rest) [argument] rest := by
  obtain ⟨form, value, ending, rfl, hending, hrun⟩ := h
  have hwrite : Reads (do write argument; return argument) ending argument ending :=
    fun written => ⟨argument.reverse ++ written, rfl⟩
  refine reads_inGroup ?_
  rcases hending with rfl | ⟨joint, rfl⟩
  · exact reads_last_item (expression_ne_nil hrun) ((reads_captured hrun).bind hwrite)
  · exact reads_next_item ((reads_captured hrun).bind hwrite) reads_no_more_items

theorem reads_trailers_call {callee : String} {content rest : List Tree}
    {arguments : List (List String)} (hend : ItemEnd rest)
    (h : Reads callArguments (.group .paren content :: rest) arguments rest) :
    Reads (trailers (.name callee)) (.group .paren content :: rest)
      (.call (some callee) arguments) rest := by
  have hlast : Reads (nextTrailer (.call (some callee) arguments)) rest
      (.call (some callee) arguments, false) rest := by
    refine (Reads.ahead _).bind ?_
    cases hend <;> exact fun written => ⟨written, rfl⟩
  refine reads_iterate_next (t := .call (some callee) arguments) ?_ (Nat.lt_succ_self _)
    (reads_iterate_last hlast)
  exact (Reads.ahead _).bind (h.bind (Reads.pure _ _))

/-- Where a word is read as a value of that name, its call is read as such. -/
theorem call_of_tokens {n : Name} {attributes content rest : List Tree} {argument : List String}
    {form : Form}
    (hatom : Reads (atom true) (.word n.text n.raw :: .group .paren content :: rest)
      (.name n.written) (.group .paren content :: rest))
    (hfront : Attributes attributes) (hargument : OneArgument content argument)
    (hend : ItemEnd rest)
    (hrest : c.rest = attributes ++ .word n.text n.raw :: .group .paren content :: rest)
    (h : (call (.expression true)).run grammar c = some (form, c')) :
    form = .call (some n.written) [argument] := by
  rw [run_call] at h
  obtain ⟨left, m, hunary, hoperators⟩ := run_bind_eq_some.1 h
  have hleft : left = .call (some n.written) [argument] ∧ m.rest = rest := by
    rw [run_call] at hunary
    replace hunary : (unary true).run grammar c = some (left, m) := hunary
    simp only [unary, run_bind_eq_some, run_ahead_eq_some] at hunary
    obtain ⟨_, m', hattributes, _, _, ⟨rfl, rfl⟩, hvalue⟩ := hunary
    obtain ⟨attributes', hfront', hrest', hstop⟩ := outerAttributes_inv hattributes
    obtain ⟨-, hword⟩ := hfront.append_inj hfront' rfl hstop (hrest.symm.trans hrest')
    have hborrow : atOp "&" (seen m'.rest) = false := hword ▸ rfl
    have hsign : (["*", "!", "-"].any fun op => atOp op (seen m'.rest)) = false := hword ▸ rfl
    rw [hborrow, hsign, if_neg Bool.false_ne_true, if_neg Bool.false_ne_true] at hvalue
    simp only [run_bind_eq_some, run_require_eq_some, run_pure_eq_some] at hvalue
    obtain ⟨_, _, hnamed, _, _, hcalled, _, _, ⟨-, rfl⟩, rfl, rfl⟩ := hvalue
    obtain ⟨rfl, hgroup⟩ := hatom.unique hword.symm hnamed
    exact (reads_trailers_call hend (reads_callArguments hargument)).unique hgroup hcalled
  obtain ⟨rfl, hend'⟩ := hleft
  exact ((reads_operators (by simp) hend).unique hend' hoperators).1

end Reader
end DocFilter.Source
