/-!
# Decimal numbers as they are written

A number is written as an optional minus sign, a whole part without needless zeros in front, and
then, both optional, a fraction behind a point and an exponent behind an `e` of either case:
`-?(0|[1-9][0-9]*)(\.[0-9]+)?([eE][+-]?[0-9]+)?`.  It stands for a whole number times a power of
ten.
-/

namespace RecordGateway

/-- The parts of a written number. -/
structure Decimal where
  /-- Does a minus sign stand in front? -/
  negative : Bool
  /-- The digits before the point. -/
  whole : List Char
  /-- The digits behind the point, if there is one. -/
  fraction : Option (List Char)
  /-- The sign and the digits of the exponent, if there is one. -/
  exponent : Option (Bool × List Char)
  deriving DecidableEq, Repr

namespace Decimal

/-- The number that a row of digits stands for. -/
def ofDigits (cs : List Char) : Nat := cs.foldl (fun n c ↦ 10 * n + (c.toNat - 48)) 0

@[simp] theorem ofDigits_nil : ofDigits [] = 0 := rfl

theorem ofDigits_append_singleton (cs : List Char) (c : Char) :
    ofDigits (cs ++ [c]) = 10 * ofDigits cs + (c.toNat - 48) := by
  simp [ofDigits, List.foldl_append]

/-- Digits at the front, at least one, and what follows them. -/
def takeDigits (cs : List Char) : Option (List Char × List Char) :=
  match cs.takeWhile Char.isDigit with
  | [] => none
  | d :: ds => some (d :: ds, cs.dropWhile Char.isDigit)

/-- A minus sign at the front, if there is one, and what follows it. -/
def takeSign : List Char → Bool × List Char
  | '-' :: cs => (true, cs)
  | cs => (false, cs)

/-- The whole part at the front: a zero on its own, or digits of which the first is none. -/
def takeWhole : List Char → Option (List Char × List Char)
  | '0' :: cs => some (['0'], cs)
  | cs => takeDigits cs

/-- A point and the digits behind it, if there is a point at the front. -/
def takeFraction : List Char → Option (Option (List Char) × List Char)
  | '.' :: cs => (takeDigits cs).map fun r ↦ (some r.1, r.2)
  | cs => some (none, cs)

/-- The sign of an exponent, which may be left out when it is positive. -/
def takeExponentSign : List Char → Bool × List Char
  | '+' :: cs => (false, cs)
  | cs => takeSign cs

/-- An exponent, if an `e` is at the front. -/
def takeExponent : List Char → Option (Option (Bool × List Char) × List Char)
  | c :: cs =>
    if c = 'e' ∨ c = 'E' then
      (takeDigits (takeExponentSign cs).2).map fun r ↦ (some ((takeExponentSign cs).1, r.1), r.2)
    else some (none, c :: cs)
  | [] => some (none, [])

/-- The number that a whole text is, if it is one. -/
def parse? (cs : List Char) : Option Decimal := do
  let (whole, cs₁) ← takeWhole (takeSign cs).2
  let (fraction, cs₂) ← takeFraction cs₁
  let (exponent, cs₃) ← takeExponent cs₂
  if cs₃.isEmpty then some ⟨(takeSign cs).1, whole, fraction, exponent⟩ else none

/-- A number without fraction and exponent. -/
def isWhole (d : Decimal) : Bool := d.fraction.isNone && d.exponent.isNone

/-- The digits on both sides of the point as one number. -/
def coefficient (d : Decimal) : Nat := ofDigits (d.whole ++ d.fraction.getD [])

/-- The exponent, which is zero if none is written. -/
def exponentValue (d : Decimal) : Int :=
  match d.exponent with
  | none => 0
  | some (negative, ds) => if negative then -(ofDigits ds : Int) else ofDigits ds

/-- The power of ten that the coefficient is to be multiplied by. -/
def scale (d : Decimal) : Int := d.exponentValue - ((d.fraction.getD []).length : Int)

/-- The value of a number that is written without fraction and exponent. -/
def toInt (d : Decimal) : Int :=
  if d.negative then -(ofDigits d.whole : Int) else ofDigits d.whole

end Decimal

end RecordGateway

namespace RecordGateway.Decimal

/-! ## Decimals cut to a word

A number may be written with more digits than a word of 64 bits has room for.  Digits are taken
from the left as long as there is room for them, and those that are left over are only counted, so
that the number keeps its size. -/

/-- Puts digits behind the number `n` as long as there is room, and counts those left over. -/
def pushDigits (hasRoom : Nat → Char → Bool) (n : Nat) : List Char → Nat × Nat
  | [] => (n, 0)
  | c :: cs =>
    if hasRoom n c then pushDigits hasRoom (10 * n + (c.toNat - 48)) cs else (n, cs.length + 1)

/-- With room for all of them no digit is left over. -/
theorem pushDigits_of_hasRoom {hasRoom : Nat → Char → Bool} (h : ∀ n c, hasRoom n c = true)
    (n : Nat) (cs : List Char) :
    pushDigits hasRoom n cs = (cs.foldl (fun n c ↦ 10 * n + (c.toNat - 48)) n, 0) := by
  induction cs generalizing n with
  | nil => rfl
  | cons c cs ih => simp [pushDigits, h, ih]

/-- The digits on both sides of the point that there is room for, as one number, and the power of
ten that it is to be multiplied by.  Digits of the fraction find room of their own, even if some
of the whole part found none. -/
def clip (hasRoom : Nat → Char → Bool) (d : Decimal) : Nat × Int :=
  let fraction := d.fraction.getD []
  let (n, extra) := pushDigits hasRoom 0 d.whole
  let (m, lost) := pushDigits hasRoom n fraction
  (m, (extra : Int) + lost - fraction.length + d.exponentValue)

/-- A number that there is room for is not changed. -/
theorem clip_of_hasRoom {hasRoom : Nat → Char → Bool} (h : ∀ n c, hasRoom n c = true)
    (d : Decimal) : d.clip hasRoom = (d.coefficient, d.scale) := by
  simp [clip, pushDigits_of_hasRoom h, coefficient, ofDigits, List.foldl_append, scale]
  omega

/-- Is there room in a word for one more digit? -/
def fitsWord (n : Nat) (c : Char) : Bool := 10 * n + (c.toNat - 48) < UInt64.size

end RecordGateway.Decimal
