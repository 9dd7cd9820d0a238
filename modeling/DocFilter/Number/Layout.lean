import DocFilter.Number.Shortest

/-!
How the shortest digits of a double are laid out as text. A layout is a record of the choices that
differ between the text forms: where positional notation ends, whether a whole number keeps a
fraction, how an exponent is signed, and which of two equally near decimals is written.
-/

namespace DocFilter

/-- A number `0.d₁d₂… · 10 ^ point` is written positionally when its point is in `positional`. -/
structure Layout where
  positional : Int → Bool
  wholeFraction : String
  exponentPlus : String
  tie : Shortest.Tie

namespace Layout

/-- Never an exponent, and a whole number without a fraction. -/
def plain : Layout := ⟨fun _ => true, "", "", .upward⟩

/-- An exponent below `10⁻⁴` and from `10¹⁶` on, and always a fraction in positional notation. -/
def annotated : Layout := ⟨fun point => -3 ≤ point && point ≤ 16, ".0", "", .upward⟩

/-- An exponent, with its sign, below `10⁻⁵` and from `10¹⁶` on. -/
def interchange : Layout := ⟨fun point => -4 ≤ point && point ≤ 16, ".0", "+", .toEven⟩

def zeros (n : Nat) : List Char := List.replicate n '0'

def positionalText (layout : Layout) (d : Shortest.Decimal) : String :=
  let count : Int := d.digits.length
  if d.point ≤ 0 then "0." ++ String.ofList (zeros (-d.point).toNat ++ d.digits)
  else if count ≤ d.point then
    String.ofList (d.digits ++ zeros (d.point - count).toNat) ++ layout.wholeFraction
  else
    String.ofList (d.digits.take d.point.toNat) ++ "." ++ String.ofList (d.digits.drop d.point.toNat)

def exponentText (layout : Layout) (d : Shortest.Decimal) : String :=
  let exponent := d.point - 1
  let mark := if exponent < 0 then "e-" else "e" ++ layout.exponentPlus
  let fraction := d.digits.drop 1
  String.ofList (d.digits.take 1) ++ (if fraction.isEmpty then "" else ".") ++
    String.ofList fraction ++ mark ++ String.ofList (Shortest.digitsOf exponent.natAbs)

def finiteText (layout : Layout) (m : Nat) (e : Int) : String :=
  if m = 0 then "0" ++ layout.wholeFraction else
    let d := Shortest.decimal layout.tie m e
    if layout.positional d.point then layout.positionalText d else layout.exponentText d

/-- The sign is written for every number that has one, zero and infinity included. -/
def text (layout : Layout) (x : Double) : String :=
  let sign := if x.isNegative then "-" else ""
  match x.magnitude with
  | .nan => "NaN"
  | .infinite => sign ++ "inf"
  | .finite m e => sign ++ layout.finiteText m e

example : plain.text ⟨0x3fb999999999999a⟩ = "0.1" := by decide +kernel
example : plain.text ⟨0x8000000000000000⟩ = "-0" := by decide +kernel
example : interchange.text ⟨0x0000000000000001⟩ = "5e-324" := by decide +kernel
example : annotated.text ⟨0x4341c37937e08000⟩ = "1e16" := by decide +kernel

end Layout
end DocFilter
