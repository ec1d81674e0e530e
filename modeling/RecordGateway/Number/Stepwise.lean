import RecordGateway.Number.Binary64
import RecordGateway.Number.Decimal

/-!
# Decimals and doubles, step by step

SQLite converts between decimals and doubles by multiplying with powers of ten, `10 ^ 100`,
`10 ^ 10` and ten, as often as it takes.  Every product is rounded to 64 bits, so that a result may
be a neighbour of the nearest one.
-/

namespace RecordGateway

/-! ## Numbers of 64 significant bits

Positive binary numbers with a significand of 64 bits and any exponent.  They are what doubles
and decimals are converted with when a conversion takes several roundings.  A half goes to the
even neighbour. -/

/-- The number `significand * 2 ^ power`. -/
structure Extended where
  significand : Nat
  power : Int
  deriving DecidableEq, Repr

namespace Extended

open Binary64 (scaleDown floorLog roundEven)

/-- The number of 64 bits nearest to `n / d`, for positive `n` and `d`. -/
def nearest (n d : Nat) : Extended :=
  let k := floorLog n d - 63
  let q := scaleDown n d k
  ⟨roundEven q.1 q.2, k⟩

/-- The number of 64 bits nearest to `10 ^ e`. -/
def tenTo (e : Int) : Extended :=
  if 0 ≤ e then nearest (Nat.pow 10 e.toNat) 1 else nearest 1 (Nat.pow 10 (-e).toNat)

/-- The product, rounded to 64 bits. -/
def mul (x y : Extended) : Extended :=
  let p := nearest (x.significand * y.significand) 1
  ⟨p.significand, p.power + x.power + y.power⟩

/-- The product with `y` as often as `k` says, each time rounded. -/
def mulTimes (x y : Extended) : (k : Nat) → Extended
  | 0 => x
  | k + 1 => mulTimes (x.mul y) y k

/-- The number as a quotient. -/
def quotient (x : Extended) : Nat × Nat := scaleDown x.significand 1 (-x.power)

/-- Is one number at most another? -/
def le (x y : Extended) : Bool :=
  x.quotient.1 * y.quotient.2 ≤ y.quotient.1 * x.quotient.2

/-- The whole part of a number. -/
def floor (x : Extended) : Nat := x.quotient.1 / x.quotient.2

/-- A finite double without its sign. -/
def ofBinary64 (x : Binary64) : Extended := ⟨x.significand, x.power⟩

/-- The magnitude bits of the nearest double.  What exceeds the greatest double is infinite, even
if that double is nearest. -/
def magnitude (x : Extended) : Nat :=
  let greatest : Binary64 := ⟨UInt64.ofNat (Binary64.infinityBits - 1)⟩
  if x.significand = 0 then 0
  else if x.le (ofBinary64 greatest) then Binary64.nearest x.quotient.1 x.quotient.2
  else Binary64.infinityBits

end Extended

/-! ## The two conversions -/

namespace Extended

/-- The product with `10 ^ e`, by steps of a hundred, of ten and of one. -/
def scaleTen (x : Extended) (e : Int) : Extended :=
  let step (k : Int) : Extended := tenTo (if e < 0 then -k else k)
  ((x.mulTimes (step 100) (e.natAbs / 100)).mulTimes (step 10) (e.natAbs % 100 / 10)).mulTimes
    (step 1) (e.natAbs % 10)

/-- Multiplies by `10 ^ k` while `more` holds, at most as often as `fuel` says, and takes what it
multiplied by from the exponent `e`. -/
def scaleWhile (more : Extended → Bool) (k : Int) (x : Extended × Int) : (fuel : Nat) →
    Extended × Int
  | 0 => x
  | fuel + 1 =>
    if more x.1 then scaleWhile more k (x.1.mul (tenTo k), x.2 - k) fuel else x

/-- The steps of one size that the range of doubles can take. -/
def maxSteps : Nat := 12

/-- A positive number as another one, of eighteen or nineteen digits before the point, times a
power of ten. -/
def toDigits (x : Extended) : Extended × Int :=
  let least (e : Int) (x : Extended) : Bool := (tenTo e).le x
  let below (e : Int) (x : Extended) : Bool := !least e x
  if least 19 x then
    let y := scaleWhile (least 119) (-100) (x, 0) maxSteps
    scaleWhile (least 19) (-1) (scaleWhile (least 29) (-10) y maxSteps) maxSteps
  else
    let y := scaleWhile (below (-97)) 100 (x, 0) maxSteps
    scaleWhile (below 17) 1 (scaleWhile (below 7) 10 y maxSteps) maxSteps

end Extended

namespace Decimal

/-- May another digit follow?  There is room while the number is below a tenth of a word. -/
def belowTenth (n : Nat) (_ : Char) : Bool := n < (UInt64.size - 10) / 10

/-- The value of the digits of an exponent, which stops to grow from ten thousand on. -/
def boundedExponent (ds : List Char) : Nat :=
  ds.foldl (fun e c ↦ if e < 10000 then 10 * e + (c.toNat - 48) else 10000) 0

/-- Moves powers of ten from the exponent `e` into the number `n`, as far as it stays a word. -/
def raise (n : Nat) : (e : Nat) → Nat × Nat
  | 0 => (n, 0)
  | e + 1 => if n < (UInt64.size - 2048) / 10 then raise (10 * n) e else (n, e + 1)

/-- Moves zeros at the end of the number `n` into the exponent, which is `-e`. -/
def lower (n : Nat) : (e : Nat) → Nat × Nat
  | 0 => (n, 0)
  | e + 1 => if n % 10 = 0 then lower (n / 10) e else (n, e + 1)

/-- The double that a number is taken for. -/
def toBinary64Stepwise (d : Decimal) : Binary64 :=
  let (n, e) := { d with exponent := none }.clip belowTenth
  let written : Int := match d.exponent with
    | none => 0
    | some (negative, ds) => if negative then -(boundedExponent ds : Int) else boundedExponent ds
  let e := e + written
  let (n, e) : Nat × Int :=
    if 0 ≤ e then
      let (n, k) := raise n e.toNat
      (n, k)
    else
      let (n, k) := lower n (-e).toNat
      (n, -(k : Int))
  let m := if n = 0 then 0 else ((⟨n, 0⟩ : Extended).scaleTen e).magnitude
  Binary64.ofMagnitude d.negative m

end Decimal

end RecordGateway

namespace RecordGateway.Binary64

/-! ## Doubles as text

A finite double is written with up to fifteen significant digits, and always with a point and a
digit behind it.  Outside `1e-4` to `1e15` an exponent is written, its sign always and at least two
digits. -/

/-- The significant digits that are written. -/
def precision : Nat := 15

/-- Digits without the zeros at their end, but at least one. -/
def stripZeros (cs : List Char) : List Char :=
  match cs.reverse.dropWhile (· == '0') with
  | [] => ['0']
  | ds => ds.reverse

/-- The first digits of a positive finite double and the power of ten of the first of them.  They
are those of the whole number that it is scaled to, a half rounded up. -/
def leadingDigits (x : Binary64) : List Char × Int :=
  let (y, e) := (Extended.ofBinary64 x).toDigits
  let length := (Nat.toDigits 10 y.floor).length
  let cut := length - precision
  let m := (y.floor + 5 * Nat.pow 10 (cut - 1)) / Nat.pow 10 cut
  let first := e + length - 1
  if m < Nat.pow 10 precision then (Nat.toDigits 10 m, first)
  else (Nat.toDigits 10 (m / 10), first + 1)

/-- A power of ten behind digits. -/
def exponentText (e : Int) : List Char :=
  let ds := Nat.toDigits 10 e.natAbs
  'e' :: (if e < 0 then '-' else '+') :: (if ds.length < 2 then '0' :: ds else ds)

/-- Digits with a point at the place that the power of ten of the first digit says. -/
def placePoint (ds : List Char) (e : Int) : List Char :=
  if e < -4 ∨ (precision : Int) ≤ e then
    ds.take 1 ++ '.' :: stripZeros (ds.drop 1) ++ exponentText e
  else if e < 0 then
    '0' :: '.' :: stripZeros (List.replicate (-e - 1).toNat '0' ++ ds)
  else ds.take (e.toNat + 1) ++ '.' :: stripZeros (ds.drop (e.toNat + 1))

/-- A double as text. -/
def text (x : Binary64) : String :=
  let sign := if x.negative then ['-'] else []
  if !x.isFinite then String.ofList (sign ++ "Inf".toList)
  else if x.significand = 0 then "0.0"
  else
    let (ds, e) := x.leadingDigits
    String.ofList (sign ++ placePoint ds e)

end RecordGateway.Binary64
