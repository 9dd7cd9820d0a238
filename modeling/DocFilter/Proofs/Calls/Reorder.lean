import DocFilter.Proofs.Merge.Exchange
import Mathlib.Data.List.Perm.Subperm

/-! The order of constraints. Two constraints conflict when they are on one field and their values
clash. A list of constraints can be put in any order that keeps conflicting ones as they are: such
an order is reached by exchanging neighbours that do not conflict, and each exchange leaves the same
filter but for the order of keys in documents that both neighbours bring. -/

namespace DocFilter

section Rearranging

variable {α : Type}

/-- `ds` holds the members of `cs`, and related ones in the order that they have there. Members are
told apart by their places in `cs`. -/
def Rearranges (related : α → α → Prop) (cs ds : List α) : Prop :=
  ∃ placed : List (α × Nat), placed.Perm cs.zipIdx ∧ placed.map Prod.fst = ds ∧
    placed.Pairwise fun a b => related a.1 b.1 → a.2 < b.2

/-- Neighbours change places, one pair after the other. -/
inductive Exchanges (free : α → α → Prop) : List α → List α → Prop where
  | refl (cs : List α) : Exchanges free cs cs
  | swap (c c' : α) (rest : List α) (h : free c c') :
      Exchanges free (c :: c' :: rest) (c' :: c :: rest)
  | cons (c : α) {cs ds : List α} (h : Exchanges free cs ds) : Exchanges free (c :: cs) (c :: ds)
  | trans {bs cs ds : List α} (h : Exchanges free bs cs) (h' : Exchanges free cs ds) :
      Exchanges free bs ds

theorem Exchanges.perm {free : α → α → Prop} {cs ds : List α} (h : Exchanges free cs ds) :
    cs.Perm ds := by
  induction h with
  | refl cs => exact .refl cs
  | swap c c' rest _ => exact .swap c' c rest
  | cons c _ ih => exact ih.cons c
  | trans _ _ ih ih' => exact ih.trans ih'

theorem exchanges_move {free : α → α → Prop} {c : α} {front : List α} (rest : List α)
    (h : ∀ b ∈ front, free c b) : Exchanges free (c :: (front ++ rest)) (front ++ c :: rest) := by
  induction front with
  | nil => exact .refl _
  | cons b front ih =>
    have hswap := Exchanges.swap c b (front ++ rest) (h b (by simp))
    exact hswap.trans (.cons b (ih fun b' hb' => h b' (by simp [hb'])))

/-- The first member of the old order has come before those that are ahead of it in the new one, so
it is related to none of them. -/
theorem exchanges_of_placed {related : α → α → Prop} {old new : List (α × Nat)}
    (hold : old.Pairwise fun a b => a.2 < b.2) (hperm : new.Perm old)
    (hnew : new.Pairwise fun a b => related a.1 b.1 → a.2 < b.2) :
    Exchanges (fun c c' => ¬ related c' c) (old.map Prod.fst) (new.map Prod.fst) := by
  induction old generalizing new with
  | nil =>
    rw [hperm.eq_nil]
    exact .refl _
  | cons a old ih =>
    obtain ⟨front, rest, rfl⟩ := List.append_of_mem (hperm.symm.subset (List.mem_cons_self))
    obtain ⟨hfirst, hold⟩ := List.pairwise_cons.1 hold
    have hrest : (front ++ rest).Perm old := (List.perm_middle.symm.trans hperm).cons_inv
    have hkept : (front ++ rest).Pairwise fun a b => related a.1 b.1 → a.2 < b.2 :=
      hnew.sublist ((List.sublist_cons_self a rest).append_left front)
    have hfree : ∀ c ∈ front.map Prod.fst, ¬ related c a.1 := by
      intro c hc hrel
      obtain ⟨b, hb, rfl⟩ := List.mem_map.1 hc
      have hlt : b.2 < a.2 := (List.pairwise_append.1 hnew).2.2 b hb a (by simp) hrel
      rcases List.mem_cons.1 (hperm.subset (List.mem_append_left _ hb)) with rfl | hbold
      · exact absurd hlt (Nat.lt_irrefl _)
      · exact absurd hlt (Nat.lt_asymm (hfirst b hbold))
    -- the others are put in order behind the first member, which then moves to its place
    have htail := Exchanges.cons a.1 (ih hold hrest hkept)
    rw [List.map_append] at htail
    rw [List.map_append]
    exact htail.trans (exchanges_move (rest.map Prod.fst) hfree)

theorem exchanges_of_rearranges {related : α → α → Prop} {cs ds : List α}
    (h : Rearranges related cs ds) : Exchanges (fun c c' => ¬ related c' c) cs ds := by
  obtain ⟨placed, hperm, rfl, hplaced⟩ := h
  have hplaces : cs.zipIdx.Pairwise fun a b => a.2 < b.2 := by
    rw [← List.pairwise_map (f := Prod.snd) (R := (· < ·)), List.zipIdx_map_snd]
    exact List.pairwise_lt_range'
  have hex := exchanges_of_placed hplaces hperm hplaced
  rwa [List.zipIdx_map_fst] at hex

end Rearranging

/-- Two constraints of one field with values that clash. -/
def Conflict (c c' : String × Value) : Prop := c.1 = c'.1 ∧ c.2.Clash c'.2

def Brings (c : String × Value) (p : List String) : Prop :=
  ∃ d, (Value.document [c]).at? p = some (.document d)

def Crowded (cs : List (String × Value)) (p : List String) : Prop :=
  ∃ c c', [c, c'].Subperm cs ∧ Brings c p ∧ Brings c' p

theorem Crowded.subperm {cs ds : List (String × Value)} {p : List String} (h : Crowded cs p)
    (hs : cs.Subperm ds) : Crowded ds p := by
  obtain ⟨c, c', hc, hp, hp'⟩ := h
  exact ⟨c, c', hc.trans hs, hp, hp'⟩

theorem Value.at?_singleton (k : String) (v : Value) (q : String) (p : List String) :
    (Value.document [(k, v)]).at? (q :: p) = if k = q then v.at? p else none := by
  have hchild : (Value.document [(k, v)]).child? q = if k = q then some v else none := rfl
  by_cases hq : k = q
  · rw [if_pos hq, Value.at?_cons_of_some (by rw [hchild, if_pos hq])]
  · rw [if_neg hq, Value.at?_cons_of_none (by rw [hchild, if_neg hq])]

theorem clash_singleton_iff (c c' : String × Value) :
    Value.Clash (.document [c]) (.document [c']) ↔ Conflict c c' := by
  obtain ⟨k, v⟩ := c
  obtain ⟨k', v'⟩ := c'
  constructor
  · rintro ⟨p, x, y, hx, hy, hk⟩
    cases p with
    | nil =>
      obtain rfl := Option.some.inj hx
      obtain rfl := Option.some.inj hy
      exact absurd ⟨rfl, rfl⟩ hk
    | cons q p =>
      rw [Value.at?_singleton] at hx hy
      split_ifs at hx hy with hq hq'
      exact ⟨hq.trans hq'.symm, p, x, y, hx, hy, hk⟩
  · rintro ⟨rfl, p, x, y, hx, hy, hk⟩
    refine ⟨k :: p, x, y, ?_, ?_, hk⟩
    · rwa [Value.at?_singleton, if_pos rfl]
    · rwa [Value.at?_singleton, if_pos rfl]

theorem distinct_singleton_iff (c : String × Value) :
    (Value.document [c]).Distinct ↔ c.2.Distinct := by
  rw [Value.distinct_document]
  simp [Document.keys]

namespace Filter

def putAll (f : Filter) (cs : List (String × Value)) : Filter :=
  cs.foldl (fun g c => (g.perform (.put c.1 c.2)).filter) f

theorem putAll_cons (f : Filter) (c : String × Value) (cs : List (String × Value)) :
    f.putAll (c :: cs) = (f.perform (.put c.1 c.2)).filter.putAll cs := rfl

theorem toValue_perform_put (f : Filter) (c : String × Value) :
    (f.perform (.put c.1 c.2)).filter.toValue = (Value.document [c]).mergeInto f.toValue := by
  rw [toValue, toValue, Value.mergeInto_document, Document.merge_cons, Document.merge_nil]
  rfl

theorem distinct_perform_put {f : Filter} {c : String × Value} (hf : f.toValue.Distinct)
    (hc : c.2.Distinct) : (f.perform (.put c.1 c.2)).filter.toValue.Distinct := by
  rw [toValue_perform_put]
  exact hf.mergeInto ((distinct_singleton_iff c).2 hc)

theorem agreeUpTo_putAll {loose : List String → Prop} {f g : Filter} {cs : List (String × Value)}
    (h : Value.AgreeUpTo loose f.toValue g.toValue) (hcs : ∀ c ∈ cs, c.2.Distinct) :
    Value.AgreeUpTo loose (f.putAll cs).toValue (g.putAll cs).toValue := by
  induction cs generalizing f g with
  | nil => exact h
  | cons c cs ih =>
    rw [putAll_cons, putAll_cons]
    apply ih
    · rw [toValue_perform_put, toValue_perform_put]
      exact h.mergeInto ((distinct_singleton_iff c).2 (hcs c (by simp)))
    · intro c' hc'
      exact hcs c' (by simp [hc'])

theorem agreeUpTo_of_exchanges {x : Filter} {cs ds : List (String × Value)}
    (h : Exchanges (fun c c' => ¬ Conflict c' c) cs ds) (hx : x.toValue.Distinct)
    (hcs : ∀ c ∈ cs, c.2.Distinct) :
    Value.AgreeUpTo (Crowded cs) (x.putAll cs).toValue (x.putAll ds).toValue := by
  induction h generalizing x with
  | refl cs => exact .refl _ _
  | swap c c' rest hfree =>
    have hc := (distinct_singleton_iff c).2 (hcs c (by simp))
    have hc' := (distinct_singleton_iff c').2 (hcs c' (by simp))
    have hnot : ¬ Value.Clash (.document [c]) (.document [c']) :=
      fun hclash => hfree ((clash_singleton_iff c' c).1 hclash.symm)
    have hcrowded : ∀ p, Brings c p ∧ Brings c' p → Crowded (c :: c' :: rest) p := fun p hp =>
      ⟨c, c', (by simp : [c, c'].Sublist (c :: c' :: rest)).subperm, hp.1, hp.2⟩
    have hswap := (Value.agreeUpTo_exchange hx hc hc' hnot).mono hcrowded
    rw [← toValue_perform_put, ← toValue_perform_put, ← toValue_perform_put,
      ← toValue_perform_put] at hswap
    -- the two filters agree after the neighbours, and go on agreeing
    exact agreeUpTo_putAll hswap fun b hb => hcs b (by simp [hb])
  | @cons c cs ds _ ih =>
    have hrest := ih (distinct_perform_put hx (hcs c (by simp))) fun b hb => hcs b (by simp [hb])
    exact hrest.mono fun p hp => hp.subperm (List.sublist_cons_self c cs).subperm
  | trans h _ ih ih' =>
    have hds := ih' hx fun b hb => hcs b (h.perm.symm.subset hb)
    exact (ih hx hcs).trans (hds.mono fun p hp => hp.subperm h.perm.symm.subperm)

/-- Constraints in two orders that agree on every conflicting pair: at every path the two filters
hold the same, or two documents with the same keys, and the latter only where two of the constraints
bring documents. -/
theorem putAll_rearranged (x : Filter) (cs ds : List (String × Value))
    (hx : x.toValue.Distinct) (hcs : ∀ c ∈ cs, c.2.Distinct)
    (h : Rearranges Conflict cs ds) (p : List String) :
    (x.putAll cs).toValue.at? p = (x.putAll ds).toValue.at? p ∨
      Crowded cs p ∧ ∃ d e,
        (x.putAll cs).toValue.at? p = some (.document d) ∧
        (x.putAll ds).toValue.at? p = some (.document e) ∧
        (Document.keys d).Perm (Document.keys e) := by
  have hex := exchanges_of_rearranges h
  exact agreeUpTo_of_exchanges hex hx hcs p

/-- Three constraints are put in the opposite order in front of a fourth one. Two of them conflict
and stay as they are, so the number for `$gt` is the same, while the operators of the field stand in
another order. -/
theorem putAll_rearranged_bounds :
    let x : Filter := ⟨[("age", .int32 5)]⟩
    let cs : List (String × Value) := [("age", .document [("$gt", .int32 1)]),
      ("age", .document [("$lt", .int32 9)]), ("name", .string "a"),
      ("age", .document [("$gt", .int32 2)])]
    let ds : List (String × Value) := [("name", .string "a"), ("age", .document [("$lt", .int32 9)]),
      ("age", .document [("$gt", .int32 1)]), ("age", .document [("$gt", .int32 2)])]
    x.toValue.Distinct ∧ (∀ c ∈ cs, c.2.Distinct) ∧ Rearranges Conflict cs ds ∧
      (x.putAll cs).toValue.at? ["age", "$gt"] = (x.putAll ds).toValue.at? ["age", "$gt"] ∧
      (x.putAll ds).toValue.at? ["age", "$gt"] = some (.int32 2) ∧
      (x.putAll cs).document.map Prod.fst = ["age", "name"] ∧
      (x.putAll ds).document.map Prod.fst = ["age", "name"] ∧
      Document.get? (x.putAll cs).document "age" =
        some (.document [("$gt", .int32 2), ("$lt", .int32 9)]) ∧
      Document.get? (x.putAll ds).document "age" =
        some (.document [("$lt", .int32 9), ("$gt", .int32 2)]) := by
  intro x cs ds
  have hn (n : Int32) : (Value.int32 n).Distinct := Value.distinct_of_leaf rfl rfl
  have hs (t : String) : (Value.string t).Distinct := Value.distinct_of_leaf rfl rfl
  have hx : x.toValue.Distinct := by simp [x, toValue, hn]
  have hcs : ∀ c ∈ cs, c.2.Distinct := by simp [cs, hn, hs]
  have hapart : ∀ v w : Value, ¬ Value.Clash (.document [("$lt", v)]) (.document [("$gt", w)]) := by
    intro v w h
    have hkey : "$lt" = "$gt" := ((clash_singleton_iff ("$lt", v) ("$gt", w)).1 h).1
    exact absurd hkey (by decide)
  have hr : Rearranges Conflict cs ds := by
    refine ⟨(cs.zipIdx.take 3).reverse ++ cs.zipIdx.drop 3, ?_, rfl, ?_⟩
    · have hperm := (List.reverse_perm (cs.zipIdx.take 3)).append_right (cs.zipIdx.drop 3)
      rwa [List.take_append_drop] at hperm
    · simp [cs, Conflict, hapart]
  refine ⟨hx, hcs, hr, ?_, rfl, rfl, rfl, rfl, rfl⟩
  rcases putAll_rearranged x cs ds hx hcs hr ["age", "$gt"] with h | ⟨-, d, e, -, he, -⟩
  · exact h
  · cases he

end Filter
end DocFilter
