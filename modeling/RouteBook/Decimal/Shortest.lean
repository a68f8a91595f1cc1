/-!
# Shortest decimals

* `Binary`: a positive number `m · 2 ^ q` together with the interval of numbers that round to it.
* `Decimal`: a number `d · 10 ^ k`.
* `Binary.shortest`: the decimal with the fewest digits in that interval, and of those the nearest.
* `floatBinary?`: the binary form of a finite number that is not zero.
-/

namespace RouteBook

/-- The number `digits · 10 ^ exponent`. -/
structure Decimal where
  digits : Nat
  exponent : Int
  deriving DecidableEq, Repr

/--
The number `significand · 2 ^ exponent`, a finite double.  `atEdge` holds where the next smaller
double is only half as far away as the next larger one.
-/
structure Binary where
  significand : Nat
  exponent : Int
  atEdge : Bool
  deriving DecidableEq, Repr

namespace Binary

/-- `n · 2 ^ (exponent - 2)` and `d · 10 ^ k`, both times the same number, which makes them whole. -/
def scaled (b : Binary) (k : Int) (n d : Nat) : Nat × Nat :=
  let q := b.exponent - 2
  (n * Nat.pow 2 q.toNat * Nat.pow 10 (-k).toNat, d * Nat.pow 10 k.toNat * Nat.pow 2 (-q).toNat)

/-- Whether `d · 10 ^ k` rounds to the number; the ends count when the significand is even. -/
def holds (b : Binary) (k : Int) (d : Nat) : Bool :=
  let (low, x) := b.scaled k (4 * b.significand - if b.atEdge then 1 else 2) d
  let (high, _) := b.scaled k (4 * b.significand + 2) d
  if b.significand % 2 == 0 then low ≤ x && x ≤ high else low < x && x < high

/-- The point of the grid of multiples of `10 ^ k` that rounds to the number, the nearer of two. -/
def onGrid? (b : Binary) (k : Int) : Option Nat :=
  let (v, unit) := b.scaled k (4 * b.significand) 1
  let below := v / unit
  let above := below + 1
  match b.holds k below, b.holds k above with
  | true, false => some below
  | false, true => some above
  | false, false => none
  | true, true =>
    let toBelow := v - below * unit
    let toAbove := above * unit - v
    if toBelow < toAbove then some below
    else if toAbove < toBelow then some above
    else if below % 2 == 0 then some below else some above

/-- The coarsest grid with a point that rounds to the number, from `10 ^ (fuel - 345)` down. -/
def search (b : Binary) : Nat → Option Decimal
  | 0 => none
  | fuel + 1 =>
    let k : Int := (fuel : Int) - 345
    match b.onGrid? k with
    | some d => some ⟨d, k⟩
    | none => search b fuel

/-- The shortest decimal that rounds to the number. -/
def shortest (b : Binary) : Decimal :=
  (b.search 660).getD ⟨0, 0⟩

end Binary

/-- The binary form of a finite double other than zero, without its sign. -/
def floatBinary? (f : Float) : Option Binary :=
  let bits := f.toBits.toNat
  let field := bits / 0x10000000000000 % 0x800
  let fraction := bits % 0x10000000000000
  if field == 0x7ff then none
  else if field == 0 then
    if fraction == 0 then none else some ⟨fraction, -1074, false⟩
  else some ⟨0x10000000000000 + fraction, Int.ofNat field - 1075, fraction == 0 && field != 1⟩

/-- The sign of a double, that of zero included. -/
def floatNegative (f : Float) : Bool :=
  0x8000000000000000 ≤ f.toBits.toNat

end RouteBook
