import TemplateQuery.Number.Shortest

/-!
# The text of a binary64 number

All the formats of the library write the shortest digits that read back. They differ in where
positional notation ends and in how an exponent and a whole number are marked, and each format is
one `FloatLayout`.
-/
namespace TemplateQuery

structure FloatLayout where
  /-- The exponents of the leading digit that are written positionally; `none` is all of them. -/
  positional : Option (Int × Int)
  /-- Whether a whole number in positional notation ends in a zero after the point. -/
  keepsPoint : Bool
  /-- Whether a positive exponent carries a sign. -/
  signsExponent : Bool

namespace FloatLayout

/-- Numbers in documents and in rendered text. -/
def document : FloatLayout := ⟨some (-5, 15), true, true⟩

/-- Numbers named in a message. -/
def plain : FloatLayout := ⟨none, false, false⟩

/-- Numbers in the listing of a token. -/
def listing : FloatLayout := ⟨some (-4, 15), true, false⟩

/-- The digits with a point after the leading `whole` of them, padded with zeros on either side. -/
def positionalText (layout : FloatLayout) (digits : List Char) (leading : Int) : String :=
  let whole := (leading + 1).toNat
  let shown := if leading < 0 then ['0'] else digits.take whole ++ List.replicate (whole - digits.length) '0'
  let fraction := List.replicate (-(leading + 1)).toNat '0' ++ digits.drop whole
  if fraction.isEmpty then String.ofList shown ++ (if layout.keepsPoint then ".0" else "")
  else String.ofList (shown ++ '.' :: fraction)

def scientificText (layout : FloatLayout) (digits : List Char) (leading : Int) : String :=
  let mantissa := match digits with
    | d :: rest@(_ :: _) => d :: '.' :: rest
    | ds => ds
  let sign := if leading < 0 then "-" else if layout.signsExponent then "+" else ""
  String.ofList mantissa ++ "e" ++ sign ++ toString leading.natAbs

def text (layout : FloatLayout) (x : Binary64) : String :=
  let sign := if x.negative then "-" else ""
  if !x.isFinite then sign ++ "inf"
  else
    let d := x.shortest
    let digits := Nat.toDigits 10 d.digits
    let leading := d.exponent + digits.length - 1
    let isPositional := match layout.positional with
      | none => true
      | some (low, high) => x.isZero || (low ≤ leading && leading ≤ high)
    sign ++ (if isPositional then layout.positionalText digits leading
      else layout.scientificText digits leading)

end FloatLayout

end TemplateQuery
