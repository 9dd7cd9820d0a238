import DocFilter.Source.Grammar

/-!
Runs taken apart. A run of a reader that has given something is followed backwards, from what was
given to the tokens that it was read from: one lemma for each way in which readers are put together,
and one for each of the smallest readers.
-/

namespace DocFilter.Source.Reader

variable {α β : Type} {r : Reader α} {k : α → Reader β} {g : Grammar} {c c' : Cursor} {x x' : α}
  {y : β}

theorem run_bind_eq_some : (r >>= k).run g c = some (y, c') ↔
    ∃ x m, r.run g c = some (x, m) ∧ (k x).run g m = some (y, c') := by
  change (r.run g c).bind _ = _ ↔ _
  rw [Option.bind_eq_some_iff]
  exact ⟨fun ⟨p, hr, hk⟩ => ⟨p.1, p.2, hr, hk⟩, fun ⟨x, m, hr, hk⟩ => ⟨(x, m), hr, hk⟩⟩

theorem run_pure_eq_some : (pure x : Reader α).run g c = some (x', c') ↔ x = x' ∧ c = c' := by
  change some (x, c) = _ ↔ _
  rw [Option.some.injEq, Prod.mk.injEq]

theorem run_require_eq_some {b : Bool} {u : Unit} :
    (require b).run g c = some (u, c') ↔ b = true ∧ c = c' := by
  cases b with
  | false => exact ⟨fun h => (nomatch h), fun h => (nomatch h.1)⟩
  | true => exact run_pure_eq_some.trans (by simp)

theorem run_then_inv {r : Reader Unit} (h : (do r; return x).run g c = some (x', c')) : x' = x := by
  simp only [run_bind_eq_some, run_pure_eq_some] at h
  obtain ⟨_, _, -, rfl, -⟩ := h
  rfl

theorem run_ite_inv {p : Prop} [Decidable p] {r r' : Reader α}
    (h : (if p then r else r').run g c = some (x, c')) :
    r.run g c = some (x, c') ∨ r'.run g c = some (x, c') := by
  split at h
  · exact .inl h
  · exact .inr h

theorem run_ahead_eq_some {ts : List Tree} :
    ahead.run g c = some (ts, c') ↔ seen c.rest = ts ∧ c = c' := by
  change some (seen c.rest, c) = _ ↔ _
  rw [Option.some.injEq, Prod.mk.injEq]

theorem run_look_eq_some {test : List Tree → Bool} {b : Bool} :
    (look test).run g c = some (b, c') ↔ test (seen c.rest) = b ∧ c = c' :=
  run_pure_eq_some (g := g) (c := c)

theorem inGroup_inv {d : Delimiter} (h : (inGroup d r).run g c = some (x, c')) :
    ∃ content written, c.rest = .group d content :: c'.rest ∧
      r.run g ⟨content, d.opening.toString :: c.written⟩ = some (x, ⟨[], written⟩) := by
  obtain ⟨content, written, hrest, hinside, -⟩ := Run.within_eq_some.1 h
  exact ⟨content, written, hrest, hinside⟩

theorem captured_inv {texts : List String} (h : (captured r).run g c = some ((x, texts), c')) :
    r.run g ⟨c.rest, []⟩ = some (x, ⟨c'.rest, texts.reverse⟩) := by
  obtain ⟨⟨x, m⟩, hr, hx⟩ := Option.map_eq_some_iff.1 h
  cases hx
  simpa using hr

theorem replace_inv {count : Nat} {texts : List String} {u : Unit}
    (h : (replace count texts).run g c = some (u, c')) :
    (0 < count ∧ count ≤ c.rest.length) ∧ c'.rest = c.rest.drop count := by
  dsimp only [replace] at h
  split at h
  case isTrue hcount =>
    cases h
    exact ⟨hcount, rfl⟩
  case isFalse => cases h

section Iterate

variable {σ : Type} {step : σ → Reader (σ × Bool)} {s s' : σ}

theorem iterate_inv (h : (iterate s step).run g c = some (s', c')) :
    ∃ next more m, (step s).run g c = some ((next, more), m) ∧
      if more ∧ m.rest.length < c.rest.length then (iterate next step).run g m = some (s', c')
      else next = s' ∧ m = c' := by
  obtain ⟨⟨⟨next, more⟩, m⟩, hstep, hnext⟩ := Option.bind_eq_some_iff.1 h
  refine ⟨next, more, m, hstep, ?_⟩
  by_cases hmore : more ∧ m.rest.length < c.rest.length
  · rw [if_pos (by simpa using hmore)] at hnext
    rw [if_pos hmore, ← hnext]
    exact rounds_fuel _ _ _ (Nat.lt_succ_self _) hmore.2
  · rw [if_neg (by simpa using hmore)] at hnext
    rw [if_neg hmore]
    cases hnext
    exact ⟨rfl, rfl⟩

/-- What the last round gives is carried back through the rounds before it. -/
theorem iterate_induction {P : σ → Cursor → Prop}
    (last : ∀ {s c more}, (step s).run g c = some ((s', more), c') →
      (more = true → c.rest.length ≤ c'.rest.length) → P s c)
    (next : ∀ {s c t m}, (step s).run g c = some ((t, true), m) → P t m → P s c)
    (h : (iterate s step).run g c = some (s', c')) : P s c := by
  induction hn : c.rest.length using Nat.strongRecOn generalizing s c with
  | ind n ih =>
    obtain ⟨t, more, m, hstep, hrest⟩ := iterate_inv h
    split at hrest
    case isTrue hmore =>
      obtain ⟨rfl, hshorter⟩ := hmore
      exact next hstep (ih _ (hn ▸ hshorter) hrest rfl)
    case isFalse hmore =>
      obtain ⟨rfl, rfl⟩ := hrest
      exact last hstep fun htrue => Nat.le_of_not_lt fun hshorter => hmore ⟨htrue, hshorter⟩

end Iterate

theorem operator_inv {op : String} {u : Unit} (h : (operator op).run g c = some (u, c')) :
    atOp op (seen c.rest) = true ∧ c'.rest = c.rest.drop op.length := by
  simp only [operator, run_bind_eq_some, run_ahead_eq_some, run_require_eq_some] at h
  obtain ⟨_, _, ⟨rfl, rfl⟩, _, _, ⟨hat, rfl⟩, h⟩ := h
  exact ⟨hat, (replace_inv h).2⟩

theorem operator?_inv {op : String} (h : (operator? op).run g c = some (false, c')) : c = c' := by
  simp only [operator?, run_bind_eq_some, run_ahead_eq_some] at h
  obtain ⟨_, _, ⟨rfl, rfl⟩, h⟩ := h
  split at h
  case isTrue =>
    obtain ⟨_, _, -, hpure⟩ := run_bind_eq_some.1 h
    cases hpure
  case isFalse =>
    cases h
    rfl

theorem atChars_singleton_inv {sign : Char} {ts : List Tree} (h : atChars [sign] ts = true) :
    ∃ joint rest, ts = .punct sign joint :: rest := by
  cases ts with
  | nil => cases h
  | cons tree rest =>
    cases tree with
    | punct d joint =>
      obtain rfl : sign = d := by simpa [atChars] using h
      exact ⟨joint, rest, rfl⟩
    | _ => cases h

theorem sign_inv {op : String} (sign : Char) (hop : op.toList = [sign]) {u : Unit}
    (h : (operator op).run g c = some (u, c')) :
    ∃ joint, c.rest = .punct sign joint :: c'.rest := by
  obtain ⟨hat, hrest⟩ := operator_inv h
  rw [atOp, hop] at hat
  obtain ⟨joint, rest, hseen⟩ := atChars_singleton_inv hat
  obtain ⟨rest, hts⟩ := exists_of_seen_eq_cons hseen
  have hlength : op.length = 1 := by rw [← String.length_toList, hop]; rfl
  rw [hts, hlength] at hrest
  exact ⟨joint, by rw [hts, hrest]; rfl⟩

theorem token_inv {tree : Tree} (h : token.run g c = some (tree, c')) :
    c.rest = tree :: c'.rest := by
  simp only [token, run_bind_eq_some, run_ahead_eq_some] at h
  obtain ⟨ts, _, ⟨hts, rfl⟩, h⟩ := h
  cases ts with
  | nil => cases h
  | cons first rest =>
    simp only [run_bind_eq_some, run_pure_eq_some] at h
    obtain ⟨_, _, hreplace, rfl, rfl⟩ := h
    obtain ⟨rest, hrest⟩ := exists_of_seen_eq_cons hts
    rw [(replace_inv hreplace).2, hrest]
    rfl

theorem anyWord_inv {n : Name} (h : anyWord.run g c = some (n, c')) :
    c.rest = .word n.text n.raw :: c'.rest := by
  simp only [anyWord, run_bind_eq_some] at h
  obtain ⟨tree, m, htoken, h⟩ := h
  split at h
  case h_2 => cases h
  case h_1 =>
    cases h
    exact token_inv htoken

theorem name_inv {n : Name} (h : name.run g c = some (n, c')) :
    c.rest = .word n.text n.raw :: c'.rest := by
  simp only [name, run_bind_eq_some, run_ahead_eq_some, run_require_eq_some] at h
  obtain ⟨_, _, ⟨rfl, rfl⟩, _, _, ⟨-, rfl⟩, h⟩ := h
  exact anyWord_inv h

theorem run_atEnd_eq_some {b : Bool} :
    atEnd.run g c = some (b, c') ↔ (b = true ↔ c.rest = []) ∧ c = c' := by
  rw [atEnd, run_look_eq_some, ← seen_eq_nil_iff, ← List.isEmpty_iff, Bool.eq_iff_iff,
    iff_comm (b := b = true)]

theorem nextItem_inv {item : Reader α} {items next : List α} {more : Bool}
    (h : (nextItem item items).run g c = some ((next, more), c')) :
    (c.rest = [] ∧ next = items ∧ more = false) ∨
      ∃ x m, next = items ++ [x] ∧ item.run g c = some (x, m) ∧
        ((m.rest = [] ∧ more = false) ∨
          (more = true ∧ ∃ joint, m.rest = .punct ',' joint :: c'.rest)) := by
  simp only [nextItem, run_bind_eq_some, run_atEnd_eq_some] at h
  obtain ⟨ended, _, ⟨hend, rfl⟩, h⟩ := h
  cases ended with
  | true =>
    cases h
    exact .inl ⟨hend.1 rfl, rfl, rfl⟩
  | false =>
    rw [if_neg Bool.false_ne_true] at h
    simp only [run_bind_eq_some, run_atEnd_eq_some] at h
    obtain ⟨x, m, hitem, ended, _, ⟨hend', rfl⟩, h⟩ := h
    cases ended with
    | true =>
      cases h
      exact .inr ⟨x, _, rfl, hitem, .inl ⟨hend'.1 rfl, rfl⟩⟩
    | false =>
      rw [if_neg Bool.false_ne_true] at h
      obtain ⟨_, _, hcomma, hpure⟩ := run_bind_eq_some.1 h
      cases hpure
      exact .inr ⟨x, m, rfl, hitem, .inr ⟨rfl, sign_inv ',' rfl hcomma⟩⟩

/-- Nothing is added to the items only at the end. -/
theorem iterate_nextItem_inv {item : Reader α} {items xs : List α}
    (h : (iterate items (nextItem item)).run g c = some (xs, c')) :
    ∃ more, xs = items ++ more ∧ (more = [] → c.rest = []) := by
  refine iterate_induction (P := fun items c => ∃ more, xs = items ++ more ∧ (more = [] → c.rest = []))
    (fun hstep _ => ?_) (fun hstep hlater => ?_) h
  · rcases nextItem_inv hstep with ⟨hend, rfl, -⟩ | ⟨x, _, rfl, -⟩
    · exact ⟨[], by simp, fun _ => hend⟩
    · exact ⟨[x], rfl, by simp⟩
  · obtain ⟨later, rfl, -⟩ := hlater
    rcases nextItem_inv hstep with ⟨-, -, hfalse⟩ | ⟨x, _, rfl, -⟩
    · cases hfalse
    · exact ⟨x :: later, by simp, by simp⟩

theorem commaSeparated_singleton_inv {item : Reader α}
    (h : (commaSeparated item).run g c = some ([x], c')) :
    ∃ m, item.run g c = some (x, m) ∧ (m.rest = [] ∨ ∃ joint, m.rest = [.punct ',' joint]) := by
  obtain ⟨next, more, m, hstep, hnext⟩ := iterate_inv h
  rcases nextItem_inv hstep with ⟨-, rfl, rfl⟩ | ⟨x', m', rfl, hitem, hend⟩
  · rw [if_neg (by simp)] at hnext
    cases hnext.1
  split at hnext
  case isTrue hmore =>
    obtain ⟨later, hlater, hrest⟩ := iterate_nextItem_inv hnext
    obtain ⟨rfl, rfl⟩ : x = x' ∧ later = [] := by simpa using hlater
    rcases hend with ⟨-, rfl⟩ | ⟨-, joint, hcomma⟩
    · exact absurd hmore.1 Bool.false_ne_true
    · exact ⟨m', hitem, .inr ⟨joint, by rw [hcomma, hrest rfl]⟩⟩
  case isFalse hmore =>
    obtain ⟨hx, rfl⟩ := hnext
    obtain rfl : x' = x := by simpa using hx
    rcases hend with ⟨hrest, -⟩ | ⟨rfl, joint, hcomma⟩
    · exact ⟨m', hitem, .inl hrest⟩
    · have hlength := ((item.isLocal g).suffix hitem).length_le
      rw [hcomma, List.length_cons] at hlength
      exact absurd ⟨rfl, hlength⟩ hmore

end DocFilter.Source.Reader
