import DocFilter.Json.Compact
import DocFilter.Json.Decode

/-! Strings and integers that have been written are read back as they were: every character of a
string from its escape, and every integer from its digits, as long as what follows them continues
neither. -/

namespace DocFilter.Json

/-- What a character is read as. The escapes without a letter of their own name a unit. -/
def unitOf (c : Char) : StringUnit :=
  if c.toNat < 0x20 ∧ c ∉ ['\n', '\r', '\t', '\x08', '\x0c'] then .unit c.toNat else .char c

theorem hexByte_ofNat {n : Nat} (h : n < 0x20) :
    Text.hexByte (UInt8.ofNat n) = [Nat.digitChar (n / 16), Nat.digitChar (n % 16)] := by
  have hn : n % 256 = n := Nat.mod_eq_of_lt (by omega)
  simp [Text.hexByte, hn]

theorem hexUnit?_digits : ∀ n < 0x20,
    hexUnit? '0' '0' (Nat.digitChar (n / 16)) (Nat.digitChar (n % 16)) = some n := by
  decide

theorem readString_escapedChar (c : Char) {s rest : List Char} {units : List StringUnit}
    (h : readString s = some (units, rest)) :
    readString (escapedChar c ++ s) = some (unitOf c :: units, rest) := by
  by_cases hquote : c = '"'
  · subst hquote
    simp [escapedChar, readString, simpleEscape?, unitOf, h]
  by_cases hbackslash : c = '\\'
  · subst hbackslash
    simp [escapedChar, readString, simpleEscape?, unitOf, h]
  by_cases hnamed : c ∈ ['\n', '\r', '\t', '\x08', '\x0c']
  · have hunit : unitOf c = .char c := if_neg fun h => h.2 hnamed
    rw [hunit]
    simp only [List.mem_cons, List.not_mem_nil, or_false] at hnamed
    rcases hnamed with rfl | rfl | rfl | rfl | rfl <;>
      simp [escapedChar, readString, simpleEscape?, h]
  have hletters : c ≠ '\n' ∧ c ≠ '\r' ∧ c ≠ '\t' ∧ c ≠ '\x08' ∧ c ≠ '\x0c' := by
    simpa [not_or] using hnamed
  by_cases hcontrol : c.toNat < 0x20
  · have hunit : unitOf c = .unit c.toNat := if_pos ⟨hcontrol, hnamed⟩
    simp [escapedChar, readString, hquote, hbackslash, hletters, hcontrol, hexByte_ofNat hcontrol,
      hexUnit?_digits c.toNat hcontrol, hunit, h]
  · have hunit : unitOf c = .char c := if_neg fun h => hcontrol h.1
    have hescaped : escapedChar c = [c] := by
      simp [escapedChar, hquote, hbackslash, hletters, hcontrol]
    rw [hescaped, hunit, List.singleton_append, readString]
    · rw [if_neg (by simp [hcontrol, hbackslash]), h]
      rfl
    all_goals simp [hquote, hbackslash]

theorem readString_text (s rest : List Char) :
    readString (s.flatMap escapedChar ++ '"' :: rest) = some (s.map unitOf, rest) := by
  induction s with
  | nil => simp [readString]
  | cons c s ih =>
    rw [List.flatMap_cons, List.append_assoc]
    exact readString_escapedChar c ih

theorem joinUnits_cons_unitOf (c : Char) (units : List StringUnit) :
    joinUnits (unitOf c :: units) = (joinUnits units).map (c :: ·) := by
  by_cases h : c.toNat < 0x20 ∧ c ∉ ['\n', '\r', '\t', '\x08', '\x0c']
  · have hlow : isLow c.toNat = false := by simp [isLow]; omega
    have hhigh : isHigh c.toNat = false := by simp [isHigh]; omega
    rw [unitOf, if_pos h, joinUnits.eq_def]
    simp [hlow, hhigh]
  · rw [unitOf, if_neg h, joinUnits]

theorem textOf_units (s : String) : textOf (s.toList.map unitOf) = some s := by
  have hjoin (cs : List Char) : joinUnits (cs.map unitOf) = some cs := by
    induction cs with
    | nil => rfl
    | cons c cs ih => rw [List.map_cons, joinUnits_cons_unitOf, ih]; rfl
  rw [textOf, hjoin]
  simp

/-- The text that stands behind a value: nothing, a comma, or the end of a list. -/
def Ends (rest : List Char) : Prop := ∀ c ∈ rest.head?, c = ',' ∨ c = ']' ∨ c = '\x7d'

theorem ends_nil : Ends [] := by simp [Ends]

theorem ends_cons {c : Char} {rest : List Char} (h : c = ',' ∨ c = ']' ∨ c = '\x7d') :
    Ends (c :: rest) := by
  simpa [Ends] using h

theorem takeWhile_append_of_ends {digits rest : List Char} (h : ∀ c ∈ digits, c.isDigit)
    (hrest : Ends rest) :
    (digits ++ rest).takeWhile Char.isDigit = digits ∧
      (digits ++ rest).dropWhile Char.isDigit = rest := by
  have hstop : rest.takeWhile Char.isDigit = [] ∧ rest.dropWhile Char.isDigit = rest := by
    cases rest with
    | nil => simp
    | cons c rest =>
      have hc : c.isDigit = false := by
        rcases hrest c rfl with rfl | rfl | rfl <;> decide
      simp [hc]
  rw [List.takeWhile_append_of_pos h, List.dropWhile_append_of_pos h, hstop.1, hstop.2]
  simp

def digitValues (n : Nat) : List Nat := (Nat.toDigits 10 n).map fun c => c.toNat - '0'.toNat

theorem ofDigits_digitValues (n : Nat) : ofDigits (digitValues n) = n := by
  induction n using Nat.strongRecOn with
  | ind n ih =>
    have hdigit (d : Nat) (hd : d < 10) : (Nat.digitChar d).toNat - '0'.toNat = d :=
      Nat.toNat_digitChar_sub_48_of_lt_ten hd
    by_cases hn : n < 10
    · rw [digitValues, Nat.toDigits_of_lt_base hn, List.map_singleton, hdigit n hn]
      simp [ofDigits]
    · have hfront := ih (n / 10) (by omega)
      rw [digitValues, Nat.toDigits_of_base_le (by omega) (by omega), List.map_append,
        List.map_singleton, hdigit _ (Nat.mod_lt n (by omega)), ofDigits, List.foldl_append]
      rw [ofDigits, digitValues] at hfront
      rw [hfront]
      simp only [List.foldl_cons, List.foldl_nil]
      omega

theorem head_toDigits_ne_zero {n : Nat} (h : 0 < n) : (Nat.toDigits 10 n).head? ≠ some '0' := by
  induction n using Nat.strongRecOn with
  | ind n ih =>
    by_cases hn : n < 10
    · rw [Nat.toDigits_of_lt_base hn]
      simp only [List.head?_cons, ne_eq, Option.some.injEq, Nat.digitChar_eq_zero]
      omega
    · have hfront := ih (n / 10) (by omega) (by omega)
      rw [Nat.toDigits_of_base_le (by omega) (by omega), List.head?_append]
      cases hhead : (Nat.toDigits 10 (n / 10)).head? with
      | none => simp at hhead
      | some c => simpa [hhead] using hfront

theorem readWhole_toDigits (n : Nat) {rest : List Char} (hrest : Ends rest) :
    readWhole (Nat.toDigits 10 n ++ rest) = some (digitValues n, rest) := by
  by_cases hn : n = 0
  · subst hn
    rw [Nat.toDigits_zero, List.singleton_append, readWhole]
    rfl
  · have hdigits : ∀ c ∈ Nat.toDigits 10 n, c.isDigit := fun c hc =>
      Nat.isDigit_of_mem_toDigits (by omega) (by omega) hc
    obtain ⟨htake, hdrop⟩ := takeWhile_append_of_ends hdigits hrest
    have hvalues : digitsOf (Nat.toDigits 10 n ++ rest) = digitValues n := by
      rw [digitsOf, htake, digitValues]
    rw [readWhole]
    · rw [readDigits, hvalues, if_neg (by simp [digitValues]), afterDigits, hdrop]
    · -- the number does not begin with a zero, which would be all of it
      intro tail htail
      have hzero := congrArg List.head? htail
      rw [List.head?_append] at hzero
      cases hhead : (Nat.toDigits 10 n).head? with
      | none => simp at hhead
      | some c =>
        rw [hhead] at hzero
        exact head_toDigits_ne_zero (by omega) (hhead.trans hzero)

/-- No fraction and no exponent stands where a value ends. -/
theorem readUnsigned_toDigits (negative : Bool) (n : Nat) {rest : List Char} (hrest : Ends rest) :
    readUnsigned negative (Nat.toDigits 10 n ++ rest) =
      some (⟨negative, digitValues n, none, none⟩, rest) := by
  have hfraction : readFraction rest = some (none, rest) := by
    rw [readFraction]
    rintro tail rfl
    simpa using hrest '.' rfl
  have hexponent : readExponent rest = some (none, rest) := by
    cases rest with
    | nil => rfl
    | cons c rest =>
      have hc : ¬ (c = 'e' ∨ c = 'E') := by
        rcases hrest c rfl with rfl | rfl | rfl <;> decide
      rw [readExponent.eq_def]
      exact if_neg hc
  rw [readUnsigned, readWhole_toDigits n hrest]
  simp [hfraction, hexponent]

def integerLiteral (i : Int) : NumberLiteral := ⟨i < 0, digitValues i.natAbs, none, none⟩

theorem toList_toString (i : Int) :
    (toString i).toList = if i < 0 then '-' :: Nat.toDigits 10 i.natAbs
      else Nat.toDigits 10 i.natAbs := by
  rw [Int.toString_eq_repr, Int.repr_eq_if]
  by_cases hi : i < 0
  · have habs : (-i).toNat = i.natAbs := by omega
    rw [if_neg (by omega), if_pos hi, String.toList_append, Nat.toList_repr, habs]
    rfl
  · have habs : i.toNat = i.natAbs := by omega
    rw [if_pos (by omega), if_neg hi, Nat.toList_repr, habs]

theorem readNumber_toString (i : Int) {rest : List Char} (hrest : Ends rest) :
    readNumber ((toString i).toList ++ rest) = some (integerLiteral i, rest) := by
  rw [toList_toString, integerLiteral]
  by_cases hi : i < 0
  · rw [if_pos hi, List.cons_append, readNumber, readUnsigned_toDigits true _ hrest]
    simp [hi]
  · rw [if_neg hi, readNumber]
    · rw [readUnsigned_toDigits false _ hrest]
      simp [hi]
    · intro tail htail
      have hminus : '-' ∈ Nat.toDigits 10 i.natAbs := by
        cases hdigits : Nat.toDigits 10 i.natAbs with
        | nil => simp at hdigits
        | cons c digits =>
          rw [hdigits, List.cons_append, List.cons.injEq] at htail
          simp [htail.1]
      simpa using Nat.isDigit_of_mem_toDigits (by omega) (by omega) hminus

theorem value_integerLiteral {i : Int} (h : -0x8000000000000000 ≤ i) (h' : i < 0x8000000000000000) :
    (integerLiteral i).value = if i < 0 then .negative i.natAbs else .natural i.natAbs := by
  rw [integerLiteral, NumberLiteral.value]
  simp only [Option.isSome_none, Bool.or_self, Bool.false_eq_true, if_false, ofDigits_digitValues]
  by_cases hi : i < 0
  · rw [if_pos (by simpa using hi), if_pos (by omega), if_pos hi]
  · rw [if_neg (by simpa using hi), if_pos (by omega), if_neg hi]

end DocFilter.Json
