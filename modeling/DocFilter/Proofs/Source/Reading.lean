import DocFilter.Proofs.Source.Depth

/-!
What readers make of tokens that have been laid out for them: a literal before a comma or at the end
is an expression by itself, and items that are printed with commas between them are read back one by
one.
-/

namespace DocFilter.Source

/-- Tokens after which nothing continues an item of a list. -/
inductive ItemEnd : List Tree → Prop where
  | nothing : ItemEnd []
  | comma (joint : Bool) (rest : List Tree) : ItemEnd (.punct ',' joint :: rest)

namespace Reader

variable {α β σ : Type} {r : Reader α} {k : α → Reader β} {ts mid rest : List Tree} {x : α} {y : β}

/-- A reader gives `x` for `ts` and leaves `rest`, whatever has been written before. -/
def Reads (r : Reader α) (ts : List Tree) (x : α) (rest : List Tree) : Prop :=
  ∀ written, ∃ written', r.run grammar ⟨ts, written⟩ = some (x, ⟨rest, written'⟩)

namespace Reads

protected theorem pure (x : α) (ts : List Tree) : Reads (pure x) ts x ts :=
  fun written => ⟨written, rfl⟩

protected theorem bind (first : Reads r ts x mid) (second : Reads (k x) mid y rest) :
    Reads (r >>= k) ts y rest := by
  intro written
  obtain ⟨middle, hr⟩ := first written
  obtain ⟨last, hk⟩ := second middle
  exact ⟨last, run_bind_eq_some.2 ⟨x, _, hr, hk⟩⟩

theorem ahead (ts : List Tree) : Reads Reader.ahead ts (seen ts) ts := fun written => ⟨written, rfl⟩

theorem atEnd (ts : List Tree) : Reads Reader.atEnd ts ts.isEmpty ts :=
  fun written => ⟨written, run_atEnd_eq_some.2 ⟨List.isEmpty_iff, rfl⟩⟩

theorem comma (joint : Bool) (rest : List Tree) :
    Reads (operator ",") (.punct ',' joint :: rest) () rest :=
  fun written => ⟨"," :: written, by rfl⟩

theorem call {form : Form} {k : Construct} (h : Reads (rule k) ts form rest) :
    Reads (call k) ts form rest := by
  intro written
  obtain ⟨last, hk⟩ := h written
  exact ⟨last, (run_call k _).trans hk⟩

theorem readAll? (h : Reads r ts x []) : readAll? ts r = some x := by
  obtain ⟨written, hr⟩ := h []
  simp [Source.readAll?, run_grammarFor r (c := ⟨ts, []⟩) (Nat.le_refl _), hr]

theorem suffix (h : Reads r ts x rest) : rest <:+ ts := by
  obtain ⟨written, hr⟩ := h []
  exact (r.isLocal grammar).suffix hr

end Reads

theorem Reads.unique {c c' : Cursor} {x' : α} (h : Reads r ts x rest) (hts : c.rest = ts)
    (hrun : r.run grammar c = some (x', c')) : x' = x ∧ c'.rest = rest := by
  subst hts
  obtain ⟨written, hread⟩ := h c.written
  cases hread.symm.trans hrun
  exact ⟨rfl, rfl⟩

theorem reads_captured {texts : List String}
    (h : r.run grammar ⟨ts, []⟩ = some (x, ⟨rest, texts.reverse⟩)) :
    Reads (captured r) ts (x, texts) rest := by
  intro written
  refine ⟨written, ?_⟩
  simp [captured, h]

theorem reads_inGroup {d : Delimiter} {content : List Tree} (h : Reads r content x []) :
    Reads (inGroup d r) (.group d content :: rest) x rest := by
  intro written
  obtain ⟨inner, hr⟩ := h (d.opening.toString :: written)
  have hwithin : Run.within d (r.run grammar) ⟨.group d content :: rest, written⟩ =
      some (x, ⟨rest, d.closing.toString :: inner⟩) :=
    Run.within_eq_some.2 ⟨content, inner, rfl, hr, rfl⟩
  exact ⟨_, hwithin⟩

section Iterate

variable {s t : σ} {step : σ → Reader (σ × Bool)}

theorem reads_iterate_last (read : Reads (step s) ts (t, false) rest) :
    Reads (iterate s step) ts t rest := by
  intro written
  obtain ⟨written', hstep⟩ := read written
  exact ⟨written', by simp [iterate, rounds, hstep]⟩

theorem reads_iterate_next {s' : σ} (read : Reads (step s) ts (t, true) mid)
    (shorter : mid.length < ts.length) (more : Reads (iterate t step) mid s' rest) :
    Reads (iterate s step) ts s' rest := by
  intro written
  obtain ⟨middle, hstep⟩ := read written
  obtain ⟨last, hmore⟩ := more middle
  refine ⟨last, ?_⟩
  simp only [iterate, rounds, hstep, Option.bind_some, shorter, decide_true, Bool.and_self, if_true]
  rw [rounds_fuel _ t _ shorter (Nat.lt_succ_self _)]
  exact hmore

end Iterate

/-- Nothing that ends an item is an operator. -/
theorem reads_operators {left : Form} (hleft : left ≠ .range) (h : ItemEnd rest) :
    Reads (call (.operators left true .loosest)) rest left rest := by
  have hnone : Reads (nextOperator true .loosest left) rest (left, false) rest := by
    refine (Reads.ahead _).bind ?_
    rw [if_neg hleft]
    cases h <;> exact fun written => ⟨written, rfl⟩
  exact .call (reads_iterate_last hnone)

theorem reads_expression_literal (text : String) (h : ItemEnd rest) :
    Reads (call (.expression true)) (.literal text :: rest) (.literal text) rest := by
  have hunary : Reads (call (.unary true)) (.literal text :: rest) (.literal text) rest := by
    refine .call fun written => ?_
    cases h <;> exact ⟨text :: written, rfl⟩
  exact .call (hunary.bind (reads_operators (by simp) h))

/-- Items with commas between them, and one more behind the last if `trailing`. -/
def separated (trailing : Bool) : List (List Tree) → List Tree
  | [] => []
  | [item] => item ++ if trailing then [.punct ',' false] else []
  | item :: next :: items => item ++ .punct ',' false :: separated trailing (next :: items)

section Items

variable {item : Reader α} {items xs : List α}

theorem reads_no_more_items : Reads (iterate items (nextItem item)) [] items [] :=
  reads_iterate_last ((Reads.atEnd []).bind (Reads.pure _ _))

theorem reads_last_item (begun : ts ≠ []) (read : Reads item ts x []) :
    Reads (iterate items (nextItem item)) ts (items ++ [x]) [] := by
  refine reads_iterate_last ((Reads.atEnd ts).bind ?_)
  rw [if_neg (by simpa using begun)]
  exact read.bind ((Reads.atEnd []).bind (Reads.pure _ _))

theorem reads_next_item {joint : Bool} (read : Reads item ts x (.punct ',' joint :: rest))
    (more : Reads (iterate (items ++ [x]) (nextItem item)) rest xs []) :
    Reads (iterate items (nextItem item)) ts xs [] := by
  have shorter : rest.length < ts.length := read.suffix.length_le
  refine reads_iterate_next ((Reads.atEnd ts).bind ?_) shorter more
  rw [if_neg (by simpa using List.ne_nil_of_length_pos (Nat.zero_lt_of_lt shorter))]
  exact read.bind ((Reads.atEnd _).bind ((Reads.comma joint rest).bind (Reads.pure _ _)))

/-- Each round takes one of the items that are left. -/
theorem reads_separated {γ : Type} {print : γ → List Tree} {value : γ → α} (trailing : Bool)
    (left : List γ)
    (reads : ∀ i ∈ left, ∀ rest, ItemEnd rest → Reads item (print i ++ rest) (value i) rest)
    (inhabited : ∀ i ∈ left, print i ≠ []) :
    Reads (iterate items (nextItem item)) (separated trailing (left.map print))
      (items ++ left.map value) [] := by
  induction left generalizing items with
  | nil =>
    simp only [List.map_nil, List.append_nil]
    exact reads_no_more_items
  | cons i left ih =>
    have read := reads i List.mem_cons_self
    have begun := inhabited i List.mem_cons_self
    cases left with
    | nil =>
      cases trailing with
      | false => exact reads_last_item (by simpa [separated] using begun) (read [] .nothing)
      | true => exact reads_next_item (read _ (.comma false [])) reads_no_more_items
    | cons next left =>
      have more := @ih (items ++ [value i]) (fun j hj => reads j (List.mem_cons_of_mem _ hj))
        fun j hj => inhabited j (List.mem_cons_of_mem _ hj)
      rw [List.append_assoc] at more
      exact reads_next_item (read _ (.comma false _)) more

end Items
end Reader
end DocFilter.Source
