import Mathlib.Data.List.Basic
import Mathlib.Order.Lattice

/-! A fragment with a `$not` in it, which may hold a further `$not`, and so on, is a list of tiers of
atoms: each tier is a conjunction, and everything below a tier is negated. Going down from the
first tier, the reading is settled where a tier fails, by whether it lies under an odd number of
negations. Two such lists that are laid over each other, tier by tier, are compared here with the
conjunction of the two. -/

namespace DocFilter.Tiers

variable {α : Type}

/-- Every atom of the first tier holds, and what is below it does not. -/
def holds (truth : α → Bool) : List (List α) → Bool
  | [] => false
  | tier :: rest => tier.all truth && !holds truth rest

/-- The first tier that fails, or the number of tiers if none does. -/
def stop (truth : α → Bool) : List (List α) → Nat
  | [] => 0
  | tier :: rest => if tier.all truth then stop truth rest + 1 else 0

def overlay : List (List α) → List (List α) → List (List α)
  | [], ts => ts
  | ss, [] => ss
  | s :: ss, t :: ts => (s ++ t) :: overlay ss ts

/-- The atom occurs in the tier with this number and in none before it. -/
inductive FirstAt (a : α) : List (List α) → Nat → Prop where
  | here {tier : List α} {rest : List (List α)} (h : a ∈ tier) : FirstAt a (tier :: rest) 0
  | later {tier : List α} {rest : List (List α)} {i : Nat} (h : a ∉ tier)
      (hr : FirstAt a rest i) : FirstAt a (tier :: rest) (i + 1)

/-- Whatever fails first in `s` and in `t`, the earlier of the two does not hide the later one: if
it makes its own side true, so does the other. A side in which nothing fails counts as failing
after its last tier. -/
structure Conjoins (s t : List (List α)) : Prop where
  atoms : ∀ a b i j, FirstAt a s i → FirstAt b t j → min i j % 2 = 1 → max i j % 2 = 1
  left : ∀ a i, FirstAt a s i → i % 2 = 1 → t.length % 2 = 1
  right : ∀ b j, FirstAt b t j → j % 2 = 1 → s.length % 2 = 1
  ends : max s.length t.length % 2 = 1 → min s.length t.length % 2 = 1

@[simp] theorem overlay_nil (s : List (List α)) : overlay s [] = s := by
  cases s <;> rfl

theorem FirstAt.mem {a : α} {ts : List (List α)} {i : Nat} (h : FirstAt a ts i) :
    a ∈ ts.flatten := by
  induction h with
  | here h => simp [h]
  | later _ _ ih => simp [ih]

theorem FirstAt.lt_length {a : α} {ts : List (List α)} {i : Nat} (h : FirstAt a ts i) :
    i < ts.length := by
  induction h with
  | here _ => simp
  | later _ _ ih => simpa using ih

theorem holds_iff_stop_odd (truth : α → Bool) (ts : List (List α)) :
    holds truth ts = true ↔ stop truth ts % 2 = 1 := by
  induction ts with
  | nil => simp [holds, stop]
  | cons tier rest ih =>
    by_cases h : tier.all truth = true
    · have hs : stop truth (tier :: rest) = stop truth rest + 1 := by rw [stop, if_pos h]
      have hh : holds truth (tier :: rest) = !holds truth rest := by rw [holds, h, Bool.true_and]
      rw [hs, hh, Bool.not_eq_true', Bool.eq_false_iff, ne_eq, ih]
      omega
    · simp [holds, stop, h]

theorem stop_le_length (truth : α → Bool) (ts : List (List α)) : stop truth ts ≤ ts.length := by
  induction ts with
  | nil => simp [stop]
  | cons tier rest ih =>
    rw [stop, List.length_cons]
    split_ifs <;> omega

/-- Laid over each other, two lists stop where the first of them fails, and if neither does, at the
end of the longer one. -/
theorem stop_overlay (truth : α → Bool) (s t : List (List α)) :
    stop truth (overlay s t) =
      if stop truth s < s.length then
        if stop truth t < t.length then min (stop truth s) (stop truth t) else stop truth s
      else if stop truth t < t.length then stop truth t else max s.length t.length := by
  induction s generalizing t with
  | nil =>
    have := stop_le_length truth t
    simp only [overlay, stop, List.length_nil]
    split_ifs <;> omega
  | cons u rest ih =>
    cases t with
    | nil =>
      have hle := stop_le_length truth (u :: rest)
      have hn : stop truth ([] : List (List α)) = 0 := rfl
      rw [overlay_nil, hn, List.length_nil]
      split_ifs <;> omega
    | cons v rest' =>
      have hall : (u ++ v).all truth = (u.all truth && v.all truth) := List.all_append
      simp only [overlay, stop, hall, ih rest', List.length_cons]
      by_cases hu : u.all truth = true <;> by_cases hv : v.all truth = true <;>
        simp only [hu, hv, Bool.and_true, Bool.and_false, if_true, if_false, Bool.false_eq_true] <;>
        split_ifs <;> omega

theorem stop_of_firstAt {truth : α → Bool} {a : α} {ts : List (List α)} {i : Nat}
    (h : FirstAt a ts i) (ha : truth a = false) (hb : ∀ b ∈ ts.flatten, b ≠ a → truth b = true) :
    stop truth ts = i := by
  induction h with
  | @here tier rest h =>
    have hf : ¬ tier.all truth = true := by
      intro hall
      rw [List.all_eq_true.1 hall a h] at ha
      cases ha
    rw [stop, if_neg hf]
  | @later tier rest i h hr ih =>
    have ht : tier.all truth = true := by
      rw [List.all_eq_true]
      intro b hbt
      exact hb b (by simp [hbt]) (ne_of_mem_of_not_mem hbt h)
    rw [stop, if_pos ht, ih fun b hbr => hb b (by simp [hbr])]

theorem stop_of_all {truth : α → Bool} {ts : List (List α)}
    (h : ∀ a ∈ ts.flatten, truth a = true) : stop truth ts = ts.length := by
  induction ts with
  | nil => rfl
  | cons tier rest ih =>
    have ht : tier.all truth = true := by
      rw [List.all_eq_true]
      intro a ha
      exact h a (by simp [ha])
    rw [stop, if_pos ht, ih fun a ha => h a (by simp [ha]), List.length_cons]

/-- A tier fails by an atom that no earlier tier has, as those hold. -/
theorem exists_firstAt_stop {truth : α → Bool} {ts : List (List α)}
    (h : stop truth ts < ts.length) : ∃ a, FirstAt a ts (stop truth ts) ∧ truth a = false := by
  induction ts with
  | nil => simp [stop] at h
  | cons tier rest ih =>
    by_cases ht : tier.all truth = true
    · rw [stop, if_pos ht] at h ⊢
      obtain ⟨a, ha, hf⟩ := ih (by simpa using h)
      refine ⟨a, .later ?_ ha, hf⟩
      intro hat
      rw [List.all_eq_true.1 ht a hat] at hf
      cases hf
    · rw [stop, if_neg ht]
      obtain ⟨a, hat, hf⟩ : ∃ a ∈ tier, truth a = false := by simpa using ht
      exact ⟨a, .here hat, hf⟩

theorem holds_overlay_iff (truth : α → Bool) (s t : List (List α)) :
    holds truth (overlay s t) = (holds truth s && holds truth t) ↔
      (stop truth (overlay s t) % 2 = 1 ↔ stop truth s % 2 = 1 ∧ stop truth t % 2 = 1) := by
  rw [← holds_iff_stop_odd, ← holds_iff_stop_odd, ← holds_iff_stop_odd, ← Bool.and_eq_true,
    Bool.eq_iff_iff]

theorem holds_overlay_of_conjoins {s t : List (List α)} (h : Conjoins s t) (truth : α → Bool) :
    holds truth (overlay s t) = (holds truth s && holds truth t) := by
  obtain ⟨hatoms, hleft, hright, hends⟩ := h
  have hs := stop_le_length truth s
  have ht := stop_le_length truth t
  rw [holds_overlay_iff, stop_overlay]
  by_cases hsl : stop truth s < s.length <;> by_cases htl : stop truth t < t.length
  · obtain ⟨a, ha, -⟩ := exists_firstAt_stop hsl
    obtain ⟨b, hb, -⟩ := exists_firstAt_stop htl
    have := hatoms a b _ _ ha hb
    rw [if_pos hsl, if_pos htl]
    omega
  · obtain ⟨a, ha, -⟩ := exists_firstAt_stop hsl
    have := hleft a _ ha
    rw [if_pos hsl, if_neg htl]
    omega
  · obtain ⟨b, hb, -⟩ := exists_firstAt_stop htl
    have := hright b _ hb
    rw [if_neg hsl, if_pos htl]
    omega
  · rw [if_neg hsl, if_neg htl]
    omega

section Valuations

open Classical

/-- The valuation under which everything holds but the atoms of the list. -/
noncomputable def allBut (as : List α) (c : α) : Bool := decide (c ∉ as)

theorem stop_allBut {a : α} {as : List α} {ts : List (List α)} {i : Nat} (h : FirstAt a ts i)
    (ha : a ∈ as) (hd : ∀ b ∈ as, b ≠ a → b ∉ ts.flatten) : stop (allBut as) ts = i := by
  apply stop_of_firstAt h
  · simp [allBut, ha]
  · intro c hc hca
    have hcs : c ∉ as := fun hm => hd c hm hca hc
    simp [allBut, hcs]

theorem stop_allBut_of_disjoint {as : List α} {ts : List (List α)}
    (h : ∀ a ∈ as, a ∉ ts.flatten) : stop (allBut as) ts = ts.length := by
  apply stop_of_all
  intro c hc
  have hcs : c ∉ as := fun hm => h c hm hc
  simp [allBut, hcs]

/-- Each condition comes from a valuation under which only the atoms that it names fail. -/
theorem conjoins_of_holds_overlay {s t : List (List α)} (hst : s.flatten.Disjoint t.flatten)
    (h : ∀ truth, holds truth (overlay s t) = (holds truth s && holds truth t)) :
    Conjoins s t := by
  simp only [holds_overlay_iff, stop_overlay] at h
  refine ⟨fun a b i j ha hb => ?_, fun a i ha => ?_, fun b j hb => ?_, ?_⟩
  · have hs : stop (allBut [a, b]) s = i := by
      apply stop_allBut ha (by simp)
      intro c hc hca
      obtain rfl : c = b := by simpa [hca] using hc
      exact fun hcs => hst hcs hb.mem
    have ht : stop (allBut [a, b]) t = j := by
      apply stop_allBut hb (by simp)
      intro c hc hcb
      obtain rfl : c = a := by simpa [hcb] using hc
      exact hst ha.mem
    have hab := h (allBut [a, b])
    rw [hs, ht, if_pos ha.lt_length, if_pos hb.lt_length] at hab
    omega
  · have hs : stop (allBut [a]) s = i := stop_allBut ha (by simp) (by simp)
    have ht : stop (allBut [a]) t = t.length := by
      apply stop_allBut_of_disjoint
      simpa using hst ha.mem
    have haa := h (allBut [a])
    rw [hs, ht, if_pos ha.lt_length, if_neg (Nat.lt_irrefl _)] at haa
    omega
  · have hs : stop (allBut [b]) s = s.length := by
      apply stop_allBut_of_disjoint
      simpa using fun hbs => hst hbs hb.mem
    have ht : stop (allBut [b]) t = j := stop_allBut hb (by simp) (by simp)
    have hbb := h (allBut [b])
    rw [hs, ht, if_neg (Nat.lt_irrefl _), if_pos hb.lt_length] at hbb
    omega
  · have hs : stop (allBut []) s = s.length := stop_allBut_of_disjoint (by simp)
    have ht : stop (allBut []) t = t.length := stop_allBut_of_disjoint (by simp)
    have hall := h (allBut [])
    rw [hs, ht, if_neg (Nat.lt_irrefl _), if_neg (Nat.lt_irrefl _)] at hall
    omega

end Valuations

/-- Two lists without a common atom, laid over each other, read as their conjunction under every
valuation exactly when they conjoin. -/
theorem holds_overlay_iff_conjoins {s t : List (List α)} (hst : s.flatten.Disjoint t.flatten) :
    (∀ truth, holds truth (overlay s t) = (holds truth s && holds truth t)) ↔ Conjoins s t :=
  ⟨conjoins_of_holds_overlay hst, holds_overlay_of_conjoins⟩

end DocFilter.Tiers
