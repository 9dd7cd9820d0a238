import DocFilter.Text.Identifier
import DocFilter.Text.Words

/-! Joined words of names that are written in small letters, digits and underscores. Joining forgets
the underscores at both ends, all but one of several in a row, and those before a digit, and it
forgets nothing else: the small name without these underscores can be read back. So two such names
are joined to the same word exactly if they differ in such underscores only. -/

namespace DocFilter.Text

def isSmall (c : Char) : Bool := c.isLower || c.isDigit

theorem forall_small {P : Char → Prop} (h : ∀ n < 128, isSmall (Char.ofNat n) → P (Char.ofNat n)) :
    ∀ c, isSmall c → P c := by
  intro c hc
  have hn : c.toNat < 128 := by
    have hlower (h : c.isLower) : c.toNat ≤ 122 := of_decide_eq_true (Bool.and_eq_true_iff.1 h).2
    have hdigit (h : c.isDigit) : c.toNat ≤ 57 := of_decide_eq_true (Bool.and_eq_true_iff.1 h).2
    rcases Bool.or_eq_true_iff.1 hc with h | h
    · exact Nat.lt_of_le_of_lt (hlower h) (by decide)
    · exact Nat.lt_of_le_of_lt (hdigit h) (by decide)
  have hofNat : Char.ofNat c.toNat = c := Char.ofNat_toNat c
  rw [← hofNat] at hc ⊢
  exact h c.toNat hn hc

theorem isAlphanumeric_of_small : ∀ c, isSmall c → isAlphanumeric c := forall_small (by decide)

theorem not_isUpper_of_small : ∀ c, isSmall c → isUpper c = false := forall_small (by decide)

theorem toUpper_of_small : ∀ c, isSmall c → toUpper c = [c.toUpper] := forall_small (by decide)

theorem toLower_of_small : ∀ c, isSmall c → c ≠ 'Σ' ∧ toLower c = [c] := forall_small (by decide)

theorem ne_underscore_of_small : ∀ c, isSmall c → c ≠ '_' := forall_small (by decide)

theorem toUpper_of_not_lower : ∀ c, isSmall c → c.isLower = false → c.toUpper = c :=
  forall_small (by decide)

theorem toLower_toUpper_of_small : ∀ c, isSmall c →
    c.toUpper.isUpper = c.isLower ∧ c.toUpper.toLower = c ∧ c.isUpper = false :=
  forall_small (by decide)

theorem beginsIdentifier_toUpper : ∀ c, isSmall c → beginsIdentifier c.toUpper = c.isLower :=
  forall_small (by decide)

theorem continuesIdentifier_of_small : ∀ c, isSmall c →
    continuesIdentifier c ∧ continuesIdentifier c.toUpper :=
  forall_small (by decide)

def Snake (name : List Char) : Prop := ∀ c ∈ name, c = '_' ∨ isSmall c

instance : DecidablePred Snake := List.decidableBAll fun c => c = '_' ∨ isSmall c

theorem snake_cons {c : Char} {rest : List Char} :
    Snake (c :: rest) ↔ (c = '_' ∨ isSmall c) ∧ Snake rest := List.forall_mem_cons

/-- The joined words; `opening` says that the next character begins one. -/
def camel (opening : Bool) : List Char → List Char
  | [] => []
  | c :: rest =>
    if c = '_' then camel true rest
    else (if opening then c.toUpper else c) :: camel false rest

theorem camel_underscore (opening : Bool) (rest : List Char) :
    camel opening ('_' :: rest) = camel true rest := rfl

theorem camel_small {c : Char} (hc : isSmall c) (opening : Bool) (rest : List Char) :
    camel opening (c :: rest) = (if opening then c.toUpper else c) :: camel false rest := by
  rw [camel, if_neg (ne_underscore_of_small c hc)]

theorem splitRun_of_small (last : LastCase) (current rest : List Char)
    (h : ∀ c ∈ rest, isSmall c) (begun : current ++ rest ≠ []) :
    splitRun last current rest = [current.reverse ++ rest] := by
  induction rest generalizing last current with
  | nil =>
    have hcurrent : current ≠ [] := by simpa using begun
    rw [splitRun, if_neg (by simpa using hcurrent), List.append_nil]
  | cons c rest ih =>
    obtain ⟨hc, hrest⟩ := List.forall_mem_cons.1 h
    cases rest with
    | nil => simp [splitRun]
    | cons next rest =>
      have hnext : isUpper next = false := not_isUpper_of_small next (hrest next (by simp))
      have hstays : ¬ (last = .upper ∧ isUpper c ∧ isLower next) := by
        simp [not_isUpper_of_small c hc]
      rw [splitRun, if_neg (by simp [hnext]), if_neg hstays, ih _ _ hrest (by simp)]
      simp

theorem lowerWord_of_small (word : List Char) (h : ∀ c ∈ word, isSmall c) :
    lowerWord word = word := by
  induction word with
  | nil => rfl
  | cons c rest ih =>
    obtain ⟨hc, hrest⟩ := List.forall_mem_cons.1 h
    obtain ⟨hsigma, hlower⟩ := toLower_of_small c hc
    cases rest with
    | nil => rw [lowerWord, if_neg hsigma, hlower]
    | cons next rest =>
      rw [lowerWord, ih hrest, hlower]
      · rfl
      · exact List.cons_ne_nil _ _

/-- The parts of a name between its underscores, the first of them with what it is joined to. -/
theorem runs_of_snake (name : List Char) (h : Snake name) :
    ∃ run others, runs name = run :: others ∧ (∀ c ∈ run, isSmall c) ∧
      ∀ opening, camel opening name =
        (if opening then capitalizeWord run else run) ++
          (others.flatMap (splitRun .none [])).flatMap capitalizeWord := by
  induction name with
  | nil => exact ⟨[], [], rfl, by simp, fun opening => by cases opening <;> rfl⟩
  | cons c rest ih =>
    obtain ⟨hc, hrest⟩ := snake_cons.1 h
    obtain ⟨run, others, hruns, hrun, hcamel⟩ := ih hrest
    rcases hc with rfl | hc
    · refine ⟨[], run :: others, ?_, by simp, fun opening => ?_⟩
      · rw [runs, if_neg (by decide), hruns]
      · rw [camel_underscore, hcamel true]
        -- a part that is not empty is one word
        by_cases hempty : run = []
        · subst hempty
          cases opening <;> rfl
        · rw [List.flatMap_cons, splitRun_of_small _ _ run hrun (by simpa using hempty)]
          cases opening <;> simp [capitalizeWord]
    · refine ⟨c :: run, others, ?_, List.forall_mem_cons.2 ⟨hc, hrun⟩, fun opening => ?_⟩
      · rw [runs, if_pos (isAlphanumeric_of_small c hc), hruns]
      · rw [camel_small hc, hcamel false]
        cases opening with
        | false => simp
        | true => simp [capitalizeWord, toUpper_of_small c hc, lowerWord_of_small run hrun]

theorem upperCamel_of_snake {name : String} (h : Snake name.toList) :
    upperCamel name = String.ofList (camel true name.toList) := by
  obtain ⟨run, others, hruns, hrun, hcamel⟩ := runs_of_snake name.toList h
  rw [hcamel true, upperCamel, words, hruns, List.flatMap_cons, List.flatMap_append]
  by_cases hempty : run = []
  · subst hempty
    rfl
  · rw [splitRun_of_small _ _ run hrun (by simpa using hempty)]
    simp

/-- The name without the underscores that tell nothing: one is kept where something has been before
it and a letter comes next. -/
def bare (started opening : Bool) : List Char → List Char
  | [] => []
  | c :: rest =>
    if c = '_' then bare started true rest
    else (if started && opening && c.isLower then ['_', c] else [c]) ++ bare true false rest

/-- Reads the small name back, with an underscore before each capital but the first. -/
def uncamel (started : Bool) : List Char → List Char
  | [] => []
  | c :: rest =>
    (if started && c.isUpper then ['_', c.toLower] else if c.isUpper then [c.toLower] else [c]) ++
      uncamel true rest

theorem uncamel_camel {name : List Char} (h : Snake name) (started opening : Bool)
    (first : started = false → opening = true) :
    uncamel started (camel opening name) = bare started opening name := by
  induction name generalizing started opening with
  | nil => rfl
  | cons c rest ih =>
    obtain ⟨hc, hrest⟩ := snake_cons.1 h
    rcases hc with rfl | hc
    · exact ih hrest started true fun _ => rfl
    · obtain ⟨hupper, hback, hsmall⟩ := toLower_toUpper_of_small c hc
      rw [camel_small hc, bare, if_neg (ne_underscore_of_small c hc), uncamel,
        ih hrest true false (by simp)]
      congr 1
      cases opening with
      | false =>
        obtain rfl : started = true := by simpa using first
        simp [hsmall]
      | true =>
        cases hlower : c.isLower with
        | false => simp [hsmall, toUpper_of_not_lower c hc hlower]
        | true => cases started <;> simp [hupper, hlower, hback]

theorem camel_bare {name : List Char} (h : Snake name) (started opening : Bool)
    (first : started = false → opening = true) :
    camel (opening && !started) (bare started opening name) = camel opening name := by
  induction name generalizing started opening with
  | nil => rfl
  | cons c rest ih =>
    obtain ⟨hc, hrest⟩ := snake_cons.1 h
    rcases hc with rfl | hc
    · have hopening : (opening && !started) = !started := by
        cases started with
        | false => simp [first rfl]
        | true => simp
      have hnext := ih hrest started true fun _ => rfl
      rw [Bool.true_and] at hnext
      rw [bare, if_pos rfl, camel_underscore, hopening, hnext]
    · have hnext : camel false (bare true false rest) = camel false rest :=
        ih hrest true false (by simp)
      rw [bare, if_neg (ne_underscore_of_small c hc), camel_small hc opening]
      cases opening with
      | false => simp [camel_small hc, hnext]
      | true =>
        cases started with
        | false => simp [camel_small hc, hnext]
        | true =>
          cases hlower : c.isLower with
          | false => simp [camel_small hc, hnext, toUpper_of_not_lower c hc hlower]
          | true => simp [camel_underscore, camel_small hc, hnext]

/-- The name that counts, without the underscores that joining forgets. -/
def bareName (name : String) : String := String.ofList (bare false true name.toList)

theorem upperCamel_eq_iff {a b : String} (ha : Snake a.toList) (hb : Snake b.toList) :
    upperCamel a = upperCamel b ↔ bareName a = bareName b := by
  rw [upperCamel_of_snake ha, upperCamel_of_snake hb, bareName, bareName, String.ofList_inj,
    String.ofList_inj]
  constructor
  · intro h
    rw [← uncamel_camel ha false true fun _ => rfl, h, uncamel_camel hb false true fun _ => rfl]
  · intro h
    rw [← camel_bare ha false true fun _ => rfl, h]
    exact camel_bare hb false true fun _ => rfl

theorem continuesIdentifier_of_mem_camel {name : List Char} (h : Snake name) (opening : Bool) :
    ∀ c ∈ camel opening name, continuesIdentifier c := by
  induction name generalizing opening with
  | nil => simp [camel]
  | cons c rest ih =>
    obtain ⟨hc, hrest⟩ := snake_cons.1 h
    rcases hc with rfl | hc
    · exact ih hrest true
    · rw [camel_small hc]
      refine List.forall_mem_cons.2 ⟨?_, ih hrest false⟩
      obtain ⟨hsmall, hcapital⟩ := continuesIdentifier_of_small c hc
      cases opening with
      | false => exact hsmall
      | true => exact hcapital

theorem isIdentifier_eq_of_all {text : List Char} (h : ∀ c ∈ text, continuesIdentifier c) :
    isIdentifier text = text.head?.any beginsIdentifier := by
  cases text with
  | nil => rfl
  | cons c rest =>
    have hrest : rest.all continuesIdentifier :=
      List.all_eq_true.2 fun d hd => h d (List.mem_cons_of_mem c hd)
    rw [isIdentifier, hrest, Bool.and_true]
    rfl

theorem head?_camel {name : List Char} (h : Snake name) :
    (camel true name).head? = (bare false true name).head?.map Char.toUpper ∧
      ∀ c, (bare false true name).head? = some c → isSmall c := by
  induction name with
  | nil => simp [camel, bare]
  | cons c rest ih =>
    obtain ⟨hc, hrest⟩ := snake_cons.1 h
    rcases hc with rfl | hc
    · exact ih hrest
    · rw [camel_small hc, bare, if_neg (ne_underscore_of_small c hc)]
      simpa using hc

def BeginsWithLetter (name : String) : Prop := (bareName name).toList.head?.any Char.isLower

instance : DecidablePred BeginsWithLetter := fun name =>
  inferInstanceAs (Decidable ((bareName name).toList.head?.any Char.isLower = true))

theorem beginsWithLetter_iff {name : String} (h : Snake name.toList) :
    BeginsWithLetter name ↔ (camel true name.toList).head?.any Char.isUpper := by
  obtain ⟨hhead, hsmall⟩ := head?_camel h
  rw [BeginsWithLetter, bareName, String.toList_ofList, hhead]
  cases hb : (bare false true name.toList).head? with
  | none => simp
  | some c => simp [(toLower_toUpper_of_small c (hsmall c hb)).1]

theorem isIdentifier_upperCamel_iff {name : String} (h : Snake name.toList) :
    isIdentifier (upperCamel name).toList ↔ BeginsWithLetter name := by
  obtain ⟨hhead, hsmall⟩ := head?_camel h
  rw [upperCamel_of_snake h, String.toList_ofList,
    isIdentifier_eq_of_all (continuesIdentifier_of_mem_camel h true), hhead, BeginsWithLetter,
    bareName, String.toList_ofList]
  cases hb : (bare false true name.toList).head? with
  | none => simp
  | some c => simp [beginsIdentifier_toUpper c (hsmall c hb)]

end DocFilter.Text
