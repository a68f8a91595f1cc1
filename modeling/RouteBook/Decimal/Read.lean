import RouteBook.Decimal.Shortest
import RouteBook.Text.Digit
/-!
# Reading numbers

* `readDecimal?`: a decimal with an optional sign, point and exponent.
* `nearestFloat?`: the double nearest to a decimal, when it is finite.
* `readFloat?`: the finite double that a text stands for.
-/

namespace RouteBook

open Text (isDigit)

/-- The value of decimal digits, the first one standing highest, behind `n`. -/
def digitsValue (n : Nat) (ds : List Char) : Nat :=
  ds.foldl (fun n c => n * 10 + (c.toNat - 0x30)) n

/-- An exponent: nothing, or a mark, a sign and digits. -/
def readExponent? (cs : List Char) : Option Int :=
  let digits (cs : List Char) : Option Nat :=
    if !cs.isEmpty && cs.all isDigit then some (digitsValue 0 cs) else none
  match cs with
  | [] => some 0
  | mark :: rest =>
    if mark = 'e' ∨ mark = 'E' then
      match rest with
      | '+' :: ds => (digits ds).map Int.ofNat
      | '-' :: ds => (digits ds).map fun n => -(n : Int)
      | ds => (digits ds).map Int.ofNat
    else none

/-- A decimal and whether it has a minus; there is a digit before or behind the point. -/
def readDecimal? (cs : List Char) : Option (Bool × Decimal) :=
  let (negative, cs) := match cs with
    | '-' :: rest => (true, rest)
    | '+' :: rest => (false, rest)
    | cs => (false, cs)
  let (whole, rest) := cs.span isDigit
  let (fraction, rest) := match rest with
    | '.' :: more => more.span isDigit
    | rest => ([], rest)
  if whole.isEmpty && fraction.isEmpty then none
  else (readExponent? rest).map fun e =>
    (negative, ⟨digitsValue (digitsValue 0 whole) fraction, e - fraction.length⟩)

/-- The whole number nearest to `n / d`, the even one of two. -/
def nearestWhole (n d : Nat) : Nat :=
  let q := n / d
  let r := n % d
  if 2 * r < d then q
  else if d < 2 * r then q + 1
  else if q % 2 = 0 then q else q + 1

/-- The exponent of the last bit of a double near `n / d`. -/
def lastBit (n d : Nat) : Int :=
  let q : Int := (n.log2 : Int) - d.log2 - 52
  let tooSmall := n * Nat.pow 2 (-q).toNat < 0x10000000000000 * d * Nat.pow 2 q.toNat
  max (-1074) (if tooSmall then q - 1 else q)

/-- The double nearest to a decimal that is not negative, when it is finite. -/
def nearestFloat? (d : Decimal) : Option Float :=
  let leading : Int := (Nat.toDigits 10 d.digits).length + d.exponent
  if d.digits = 0 ∨ leading < -400 then some 0
  else if 400 < leading then none
  else
    let num := d.digits * Nat.pow 10 d.exponent.toNat
    let den := Nat.pow 10 (-d.exponent).toNat
    let q := lastBit num den
    let m := nearestWhole (num * Nat.pow 2 (-q).toNat) (den * Nat.pow 2 q.toNat)
    let (m, q) := if m = 0x20000000000000 then (0x10000000000000, q + 1) else (m, q)
    if 971 < q then none
    else
      let bits := if m < 0x10000000000000 then m
        else (q + 1075).toNat * 0x10000000000000 + (m - 0x10000000000000)
      some (Float.ofBits bits.toUInt64)

/-- The finite double that a text stands for. -/
def readFloat? (cs : List Char) : Option Float :=
  (readDecimal? cs).bind fun (negative, d) =>
    (nearestFloat? d).map fun f => if negative then -f else f

end RouteBook
