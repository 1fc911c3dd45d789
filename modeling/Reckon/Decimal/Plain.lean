import Reckon.Decimal

/-!
# Plain notation

* `Decimal.plainChars`, `Decimal.plain`: a number without exponent, with as many fraction digits
  as its scale says and zeros in place of a negative scale.
-/

namespace Reckon.Decimal

/-- The digits `ds` with a point before the last `places` of them, and at least one digit
before the point. -/
def pointed (ds : List Char) (places : Nat) : List Char :=
  if places < ds.length then
    ds.take (ds.length - places) ++ '.' :: ds.drop (ds.length - places)
  else '0' :: '.' :: (List.replicate (places - ds.length) '0' ++ ds)

def plainChars (x : Decimal) : List Char :=
  let ds := Reckon.digits x.coeff.natAbs
  let sign := if x.coeff < 0 then ['-'] else []
  if x.scale ≤ 0 then sign ++ ds ++ List.replicate (-x.scale).toNat '0'
  else sign ++ pointed ds x.scale.toNat

def plain (x : Decimal) : String := String.ofList x.plainChars

end Reckon.Decimal
