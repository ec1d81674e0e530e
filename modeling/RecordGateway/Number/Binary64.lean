import RecordGateway.Number.Decimal

/-!
# Double-precision numbers

The 64 bits of an IEEE 754 double and the double nearest to an exact quotient.  The bits below
the sign, read as a number, count the doubles from zero upwards, so rounding a quotient is one
division to the nearest integer on the grid of its binade, and a carry runs over into the next
binade by itself.  A half goes to the even neighbour.
-/

namespace RecordGateway

/-- A double, by its bits. -/
structure Binary64 where
  /-- The sign, eleven bits of exponent and 52 of fraction. -/
  bits : UInt64
  deriving DecidableEq, Repr, Inhabited

namespace Binary64

/-- The bit of the sign, which is `2 ^ 63`. -/
def signBit : Nat := 9223372036854775808

/-- The number of doubles from one power of two up to the next, which is `2 ^ 52`. -/
def binade : Nat := 4503599627370496

/-- The magnitude bits of infinity; those above it are no numbers. -/
def infinityBits : Nat := 2047 * binade

/-- The bits below the sign. -/
def magnitude (x : Binary64) : Nat := x.bits.toNat % signBit

/-- Is the sign bit set? -/
def negative (x : Binary64) : Bool := signBit ≤ x.bits.toNat

def isFinite (x : Binary64) : Bool := x.magnitude < infinityBits

def isNaN (x : Binary64) : Bool := infinityBits < x.magnitude

/-- The double with the given sign and magnitude bits. -/
def ofMagnitude (negative : Bool) (m : Nat) : Binary64 :=
  ⟨UInt64.ofNat (if negative then signBit + m else m)⟩

/-- The integer nearest to `n / d`, a half going to the even neighbour. -/
def roundEven (n d : Nat) : Nat :=
  if 2 * (n % d) < d then n / d
  else if d < 2 * (n % d) then n / d + 1
  else n / d + n / d % 2

/-- The quotient `n / d` divided by `2 ^ k`. -/
def scaleDown (n d : Nat) (k : Int) : Nat × Nat :=
  if 0 ≤ k then (n, d * Nat.pow 2 k.toNat) else (n * Nat.pow 2 (-k).toNat, d)

/-- The greatest `e` with `2 ^ e ≤ n / d`, for positive `n` and `d`. -/
def floorLog (n d : Nat) : Int :=
  let e : Int := (n.log2 : Int) - d.log2
  if (scaleDown n d e).2 ≤ (scaleDown n d e).1 then e else e - 1

/-- The exponent of the last bit of the double nearest to `n / d`. -/
def lastBit (n d : Nat) : Int := max (-1074) (floorLog n d - 52)

/-- The magnitude bits of the double nearest to `n / d`, for positive `n` and `d`. -/
def nearest (n d : Nat) : Nat :=
  let k := lastBit n d
  let q := scaleDown n d k
  min infinityBits ((k + 1074).toNat * binade + roundEven q.1 q.2)

/-- The magnitude bits of the double nearest to `m * 10 ^ e`.  A power of ten far outside the
range of doubles is not computed. -/
def nearestDecimal (m : Nat) (e : Int) : Nat :=
  if m = 0 then 0
  else if 309 ≤ e then infinityBits
  else if e + m.log2 < -331 then 0
  else if 0 ≤ e then nearest (m * Nat.pow 10 e.toNat) 1
  else nearest m (Nat.pow 10 (-e).toNat)

/-- The double nearest to a written number; infinity from half a step above the greatest double. -/
def ofDecimal (d : Decimal) : Binary64 :=
  ofMagnitude d.negative (nearestDecimal d.coefficient d.scale)

/-- The double nearest to an integer. -/
def ofInt (n : Int) : Binary64 :=
  if n = 0 then ⟨0⟩ else ofMagnitude (n < 0) (nearest n.natAbs 1)

/-- A finite double is its significand times a power of two. -/
def significand (x : Binary64) : Nat :=
  if x.magnitude < binade then x.magnitude else x.magnitude % binade + binade

/-- The power of two that the significand is multiplied by. -/
def power (x : Binary64) : Int :=
  if x.magnitude < binade then -1074 else (x.magnitude / binade : Nat) - 1075

/-- The magnitude bits of the double nearest to the product of two finite doubles. -/
def productMagnitude (x y : Binary64) : Nat :=
  let q := scaleDown (x.significand * y.significand) 1 (-(x.power + y.power))
  if q.1 = 0 then 0 else nearest q.1 q.2

/-- The integer that a finite double is, if it is one. -/
def toInt? (x : Binary64) : Option Int :=
  let sign : Int := if x.negative then -1 else 1
  if !x.isFinite then none
  else if 0 ≤ x.power then some (sign * (x.significand * Nat.pow 2 x.power.toNat : Nat))
  else
    let d := Nat.pow 2 (-x.power).toNat
    if x.significand % d = 0 then some (sign * (x.significand / d : Nat)) else none

end Binary64

end RecordGateway
