import RouteBook.Decimal.Shortest
/-!
# Writing numbers

* `scientific`: digits with a point after the first, and a power of ten.
* `positional`: all digits at their places, with at least one after the point.
* `floatText`: the shortest decimal of a double, positional for numbers from `0.00001` up to
  sixteen digits before the point, scientific beyond.
* `plainFloatText`: the shortest decimal, always positional.
-/

namespace RouteBook

namespace Decimal

/-- The decimal digits of the significand. -/
def digitChars (d : Decimal) : List Char :=
  Nat.toDigits 10 d.digits

/-- The power of ten of the first digit. -/
def leading (d : Decimal) : Int :=
  d.exponent + d.digitChars.length - 1

/-- All digits at their places, with at least one after the point. -/
def positional (d : Decimal) : List Char :=
  let ds := d.digitChars
  if 0 ≤ d.exponent then ds ++ List.replicate d.exponent.toNat '0' ++ ['.', '0']
  else
    let places := (-d.exponent).toNat
    if places < ds.length then
      ds.take (ds.length - places) ++ '.' :: ds.drop (ds.length - places)
    else '0' :: '.' :: List.replicate (places - ds.length) '0' ++ ds

/-- One digit before the point, the rest after it, and the power of ten with its sign. -/
def scientific (d : Decimal) : List Char :=
  let mantissa :=
    match d.digitChars with
    | [] => []
    | [c] => [c]
    | c :: rest => c :: '.' :: rest
  mantissa ++ 'e' :: (if d.leading < 0 then '-' else '+') :: Nat.toDigits 10 d.leading.natAbs

end Decimal

/-- A double with `write` for its shortest decimal. -/
def floatTextWith (write : Decimal → List Char) (f : Float) : List Char :=
  let magnitude :=
    match floatBinary? f with
    | some b => write b.shortest
    | none =>
      if f.isNaN then "NaN".toList
      else if f.isInf then "inf".toList
      else "0.0".toList
  if floatNegative f && !f.isNaN then '-' :: magnitude else magnitude

/-- A double, positional for moderate sizes and scientific beyond. -/
def floatText (f : Float) : List Char :=
  floatTextWith (fun d => if -5 ≤ d.leading && d.leading < 16 then d.positional else d.scientific) f

/-- A double, always positional. -/
def plainFloatText (f : Float) : List Char :=
  floatTextWith Decimal.positional f

end RouteBook
