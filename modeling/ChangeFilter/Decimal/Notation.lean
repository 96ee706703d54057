import ChangeFilter.Decimal.Shortest

/-! # Writing a binary64 value in decimal

    A `Style` fixes the decisions of a decimal notation: where positional
    notation gives way to an exponent, whether an integral value keeps `.0`,
    how the exponent is written, and the texts of infinity and NaN. `render`
    writes the shortest digits that read back (see `Decimal.shortest`) in that
    style. -/

namespace ChangeFilter.Decimal

/-- The decisions of a decimal notation. With the value written `0.d₁d₂… · 10^p`,
    positional notation is used when `expBelow < p ≤ expAbove`. -/
structure Style where
  expBelow : Int
  expAbove : Int
  pointZero : Bool
  expMark : String
  expPlus : Bool
  expDigits : Nat
  infinity : String
  notANumber : String

/-- Pads a digit text with zeros on the left up to `n` characters. -/
def padLeft (n : Nat) (s : String) : String :=
  String.ofList (List.replicate (n - s.length) '0') ++ s

/-- Writes digits `ds` with the decimal point after `p` of them (`p` may lie
    outside the digits). -/
def positional (style : Style) (ds : String) (p : Int) : String :=
  let n : Int := ds.length
  if p ≤ 0 then "0." ++ String.ofList (List.replicate (-p).toNat '0') ++ ds
  else if p ≥ n then
    ds ++ String.ofList (List.replicate (p - n).toNat '0') ++ (if style.pointZero then ".0" else "")
  else
    String.ofList (ds.toList.take p.toNat) ++ "." ++ String.ofList (ds.toList.drop p.toNat)

/-- Writes digits `ds` as `d.ddd` followed by the exponent `x`. -/
def scientific (style : Style) (ds : String) (x : Int) : String :=
  let mant := match ds.toList with
    | d :: [] => String.singleton d
    | d :: rest => String.singleton d ++ "." ++ String.ofList rest
    | [] => "0"
  let sign := if x < 0 then "-" else if style.expPlus then "+" else ""
  mant ++ style.expMark ++ sign ++ padLeft style.expDigits (toString x.natAbs)

/-- Writes a binary64 value in a style. -/
def render (style : Style) (x : Float) : String :=
  match classify x with
  | .nan => style.notANumber
  | .infinite neg => (if neg then "-" else "") ++ style.infinity
  | .finite b =>
    let sign := if b.negative then "-" else ""
    if b.mantissa = 0 then sign ++ positional style "0" 1
    else
      let (c, e) := shortest b.mantissa b.exponent
      let ds := toString c
      let p : Int := e + ds.length
      if style.expBelow < p ∧ p ≤ style.expAbove then sign ++ positional style ds p
      else sign ++ scientific style ds (p - 1)

end ChangeFilter.Decimal
