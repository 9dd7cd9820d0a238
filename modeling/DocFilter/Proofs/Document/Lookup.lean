import DocFilter.Filter.Merge
import Mathlib.Data.List.Nodup

/-! A document is read through its keys and through what `get?` finds under each of them. This file
says what merging does to both. A document without repeated keys is determined by the two
readings, so an equation between documents can be proved key by key. -/

namespace DocFilter
namespace Document

@[simp] theorem keys_nil : keys [] = [] := rfl

@[simp] theorem keys_cons (key : String) (value : Value) (rest : List (String × Value)) :
    keys ((key, value) :: rest) = key :: keys rest := rfl

theorem get?_eq_none_iff (d : Document) (k : String) : get? d k = none ↔ k ∉ keys d := by
  induction d with
  | nil => simp [get?]
  | cons entry rest ih =>
    obtain ⟨key, value⟩ := entry
    by_cases h : key = k
    · simp [get?, h]
    · simp [get?, h, ih, Ne.symm h]

theorem contains_iff (d : Document) (k : String) : contains d k = true ↔ k ∈ keys d := by
  rw [contains, Option.isSome_iff_ne_none, Ne, get?_eq_none_iff, not_not]

theorem mem_of_get? {d : Document} {k : String} {v : Value} (h : get? d k = some v) :
    (k, v) ∈ d := by
  induction d with
  | nil => cases h
  | cons entry rest ih =>
    obtain ⟨key, value⟩ := entry
    by_cases hk : key = k
    · simp only [get?, hk, if_true, Option.some.injEq] at h
      simp [hk, h]
    · simp only [get?, hk, if_false] at h
      exact List.mem_cons_of_mem _ (ih h)

theorem get?_of_mem {d : Document} (hd : (keys d).Nodup) {k : String} {v : Value}
    (h : (k, v) ∈ d) : get? d k = some v := by
  induction d with
  | nil => cases h
  | cons entry rest ih =>
    obtain ⟨key, value⟩ := entry
    obtain ⟨hkey, hrest⟩ := List.nodup_cons.1 hd
    rcases List.mem_cons.1 h with he | hr
    · cases he
      simp [get?]
    · have hk : key ≠ k := by
        rintro rfl
        exact hkey (List.mem_map.2 ⟨_, hr, rfl⟩)
      simpa [get?, hk] using ih hrest hr

/-- Two documents without repeated keys are the same when their keys stand in the same order and
lead to the same values. -/
theorem ext {d e : Document} (hd : (keys d).Nodup) (hk : keys d = keys e)
    (hg : ∀ k, get? d k = get? e k) : d = e := by
  induction d generalizing e with
  | nil =>
    cases e with
    | nil => rfl
    | cons entry rest => cases hk
  | cons entry rest ih =>
    cases e with
    | nil => cases hk
    | cons entry' rest' =>
      obtain ⟨key, value⟩ := entry
      obtain ⟨key', value'⟩ := entry'
      obtain ⟨hkey, hnd⟩ := List.nodup_cons.1 hd
      obtain ⟨rfl, hrest⟩ : key = key' ∧ keys rest = keys rest' := by simpa using hk
      have hv : value = value' := by simpa [get?] using hg key
      have hr : rest = rest' := by
        apply ih hnd hrest
        intro k
        by_cases h : key = k
        · subst h
          rw [(get?_eq_none_iff rest key).2 hkey, (get?_eq_none_iff rest' key).2 (hrest ▸ hkey)]
        · simpa [get?, h] using hg k
      rw [hv, hr]

theorem get?_add (d : Document) (k j : String) (v : Value) :
    get? (add d k v) j = if j = k then some (v.arrive (get? d k)) else get? d j :=
  get?_alter k j v.arrive d

@[simp] theorem merge_nil (d : Document) : merge d [] = d := by
  simp [merge, mergeEntries]

theorem merge_cons (d : Document) (key : String) (value : Value) (rest : Document) :
    merge d ((key, value) :: rest) = merge (add d key value) rest :=
  mergeEntries_cons key value rest d

/-- What a merge stores under a key: the incoming value as it arrives there, and the stored value
where none comes in. -/
theorem get?_merge (d e : Document) (he : (keys e).Nodup) (k : String) :
    get? (merge d e) k =
      match get? e k with
      | some v => some (v.arrive (get? d k))
      | none => get? d k := by
  induction e generalizing d with
  | nil => simp [get?]
  | cons entry rest ih =>
    obtain ⟨key, value⟩ := entry
    obtain ⟨hkey, hrest⟩ := List.nodup_cons.1 he
    rw [merge_cons, ih _ hrest]
    by_cases hk : key = k
    · subst hk
      simp [get?, get?_add, (get?_eq_none_iff rest key).2 hkey]
    · simp [get?, get?_add, hk, Ne.symm hk]

theorem get?_merge_of_none (d : Document) {e : Document} (he : (keys e).Nodup) {k : String}
    (h : get? e k = none) : get? (merge d e) k = get? d k := by
  rw [get?_merge d e he, h]

theorem get?_merge_of_some (d : Document) {e : Document} (he : (keys e).Nodup) {k : String}
    {v : Value} (h : get? e k = some v) : get? (merge d e) k = some (v.arrive (get? d k)) := by
  rw [get?_merge d e he, h]

/-- The stored keys stay where they are, and the incoming ones that are new follow in their
order. -/
theorem keys_merge (d e : Document) (he : (keys e).Nodup) :
    keys (merge d e) = keys d ++ (keys e).filter (· ∉ keys d) := by
  induction e generalizing d with
  | nil => simp
  | cons entry rest ih =>
    obtain ⟨key, value⟩ := entry
    obtain ⟨hkey, hrest⟩ := List.nodup_cons.1 he
    rw [merge_cons, ih _ hrest, keys_add, keys_cons]
    by_cases hk : key ∈ keys d
    · rw [if_pos hk, List.filter_cons_of_neg (by simpa using hk)]
    · -- no key of `rest` is `key`, so the key that has just been added shadows none of them
      have hf : (keys rest).filter (· ∉ keys d ++ [key]) = (keys rest).filter (· ∉ keys d) := by
        apply List.filter_congr
        intro k hkr
        have hne : k ≠ key := ne_of_mem_of_not_mem hkr hkey
        simp [hne]
      rw [if_neg hk, hf, List.filter_cons_of_pos (by simpa using hk)]
      simp

theorem mem_keys_merge (d e : Document) (he : (keys e).Nodup) (k : String) :
    k ∈ keys (merge d e) ↔ k ∈ keys d ∨ k ∈ keys e := by
  rw [keys_merge d e he, List.mem_append, List.mem_filter]
  by_cases h : k ∈ keys d <;> simp [h]

theorem nodup_keys_merge {d e : Document} (hd : (keys d).Nodup) (he : (keys e).Nodup) :
    (keys (merge d e)).Nodup := by
  rw [keys_merge d e he]
  refine List.nodup_append.2 ⟨hd, he.filter _, ?_⟩
  intro k hk j hj hkj
  subst hkj
  simp [hk] at hj

theorem alter_of_not_mem (change : Option Value → Value) {d : Document} {key : String}
    (h : key ∉ keys d) : alter key change d = d ++ [(key, change none)] := by
  induction d with
  | nil => rfl
  | cons entry rest ih =>
    obtain ⟨key', value'⟩ := entry
    have hne : key' ≠ key ∧ key ∉ keys rest := by
      simpa [eq_comm] using h
    simp [alter, hne.1, ih hne.2]

theorem add_of_not_mem (d : Document) {key : String} (value : Value) (h : key ∉ keys d) :
    add d key value = d ++ [(key, value)] :=
  alter_of_not_mem value.arrive h

theorem alter_alter (k : String) (first second : Option Value → Value) (d : Document) :
    alter k second (alter k first d) = alter k (fun old => second (some (first old))) d := by
  induction d with
  | nil => simp [alter]
  | cons entry rest ih =>
    obtain ⟨key, value⟩ := entry
    by_cases h : key = k
    · simp [alter, h]
    · simp [alter, h, ih]

/-- Two values that are added under a new key one after the other have met before. -/
theorem add_add_of_not_mem {d : Document} {key : String} (v w : Value) (h : key ∉ keys d) :
    add (add d key v) key w = add d key (w.mergeInto v) := by
  rw [add, add, add, alter_alter, alter_of_not_mem _ h, alter_of_not_mem _ h]
  rfl

/-- Entries whose keys are all different are a document as they stand. -/
theorem ofEntries_of_nodup {entries : Document} (h : (keys entries).Nodup) :
    ofEntries entries = entries := by
  have happend (d : Document) (hnd : (keys (d ++ entries)).Nodup) :
      entries.foldl (fun d entry => insert d entry.1 entry.2) d = d ++ entries := by
    clear h
    induction entries generalizing d with
    | nil => simp
    | cons entry rest ih =>
      obtain ⟨key, value⟩ := entry
      have hkey : key ∉ keys d := by
        rw [keys, List.map_append, List.nodup_append] at hnd
        exact fun hk => hnd.2.2 key hk key (by simp) rfl
      rw [List.append_cons] at hnd ⊢
      rw [List.foldl_cons, insert, alter_of_not_mem _ hkey, ih _ hnd]
  exact happend [] h

/-- A document that shares no key with the stored one is appended to it. -/
theorem merge_of_disjoint (d e : Document) (he : (keys e).Nodup) (h : ∀ k ∈ keys e, k ∉ keys d) :
    merge d e = d ++ e := by
  induction e generalizing d with
  | nil => simp
  | cons entry rest ih =>
    obtain ⟨key, value⟩ := entry
    obtain ⟨hkey, hrest⟩ := List.nodup_cons.1 he
    have hk : key ∉ keys d := h key (by simp)
    have hfresh : ∀ k ∈ keys rest, k ∉ keys (d ++ [(key, value)]) := by
      intro k hkr
      have hne : k ≠ key := ne_of_mem_of_not_mem hkr hkey
      have hkd : k ∉ keys d := h k (by simp [hkr])
      simpa [keys] using ⟨by simpa [keys] using hkd, hne⟩
    rw [merge_cons, add_of_not_mem d value hk, ih _ hrest hfresh]
    simp

theorem merge_empty {d : Document} (hd : (keys d).Nodup) : merge [] d = d :=
  merge_of_disjoint [] d hd (by simp)

def without (d : Document) (k : String) : Document := d.filter (·.1 ≠ k)

theorem without_add (d : Document) (k : String) (v : Value) : without (add d k v) k = without d k := by
  induction d with
  | nil => simp [add, alter, without]
  | cons entry rest ih =>
    obtain ⟨key, value⟩ := entry
    by_cases h : key = k
    · simp [add, alter, without, h]
    · simpa [add, alter, without, h] using ih

end Document
end DocFilter
