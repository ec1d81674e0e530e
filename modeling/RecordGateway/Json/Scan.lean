/-!
# Reading JSON from bytes

The tokens of JSON, read off the front of the bytes that are left.  Each reader gives the bytes
behind its token, or the fault that a reader going from left to right meets first.  Texts are
passed over here without being decoded.
-/

namespace RecordGateway.Json

/-- Why bytes are not the document that was asked for. -/
inductive Fault
  /-- A byte that cannot stand where it stands. -/
  | malformed
  /-- A value that is well formed as far as it was read, but not of the type asked for. -/
  | mistyped
  /-- The bytes end too early. -/
  | truncated
  deriving DecidableEq, Repr

/-- The byte of an ASCII character. -/
def byte (c : Char) : UInt8 := c.toUInt8

/-- Space, tab, line feed and carriage return. -/
def isBlank (b : UInt8) : Bool := b == 0x20 || b == 0x09 || b == 0x0A || b == 0x0D

def isDigit (b : UInt8) : Bool := 0x30 ≤ b && b ≤ 0x39

/-- The value of a hexadecimal digit of either case. -/
def hexValue? (b : UInt8) : Option Nat :=
  if 0x30 ≤ b && b ≤ 0x39 then some (b.toNat - 0x30)
  else if 0x41 ≤ b && b ≤ 0x46 then some (b.toNat - 0x37)
  else if 0x61 ≤ b && b ≤ 0x66 then some (b.toNat - 0x57)
  else none

/-- The number of four hexadecimal digits. -/
def hex4? (a b c d : UInt8) : Option Nat := do
  let a ← hexValue? a
  let b ← hexValue? b
  let c ← hexValue? c
  let d ← hexValue? d
  some (((a * 16 + b) * 16 + c) * 16 + d)

/-- Reads four hexadecimal digits. -/
def readHex4 : List UInt8 → Except Fault (Nat × List UInt8)
  | a :: b :: c :: d :: s =>
    match hex4? a b c d with
    | some n => .ok (n, s)
    | none => .error .malformed
  | _ => .error .truncated

theorem length_readHex4 {s : List UInt8} {r : Nat × List UInt8} (h : readHex4 s = .ok r) :
    r.2.length < s.length := by
  unfold readHex4 at h
  split at h
  · split at h
    · cases h
      simp only [List.length_cons]
      omega
    · cases h
  · cases h

/-- What is left behind the blanks at the front. -/
def skipBlank (s : List UInt8) : List UInt8 := s.dropWhile isBlank

theorem length_skipBlank_le (s : List UInt8) : (skipBlank s).length ≤ s.length :=
  (List.dropWhile_sublist _).length_le

theorem length_of_skipBlank {s t : List UInt8} {b : UInt8} (h : skipBlank s = b :: t) :
    t.length < s.length := by
  have := length_skipBlank_le s
  rw [h] at this
  exact this

/-- Passes over the bytes of a word. -/
def expect : List UInt8 → List UInt8 → Except Fault (List UInt8)
  | [], s => .ok s
  | _ :: _, [] => .error .truncated
  | w :: ws, b :: s => if b = w then expect ws s else .error .malformed

theorem length_expect {ws s r : List UInt8} (h : expect ws s = .ok r) : r.length ≤ s.length := by
  fun_induction expect ws s with
  | case1 => cases h; exact Nat.le_refl _
  | case2 => cases h
  | case3 w ws s ih => exact Nat.le_succ_of_le (ih h)
  | case4 => cases h

/-! ## Numbers

`atEnd` is the fault of a number that ends where a digit has to come.
-/

/-- Passes over digits, at least one. -/
def skipDigits (atEnd : Fault) : List UInt8 → Except Fault (List UInt8)
  | [] => .error atEnd
  | b :: s => if isDigit b then .ok (s.dropWhile isDigit) else .error .malformed

/-- Passes over a whole part: a zero that no digit follows, or digits that begin with none. -/
def skipWhole (atEnd : Fault) : List UInt8 → Except Fault (List UInt8)
  | [] => .error atEnd
  | b :: s =>
    if b = byte '0' then
      match s with
      | [] => .ok []
      | d :: s => if isDigit d then .error .malformed else .ok (d :: s)
    else if isDigit b then .ok (s.dropWhile isDigit)
    else .error .malformed

/-- Passes over a fraction, if there is one. -/
def skipFraction (atEnd : Fault) : List UInt8 → Except Fault (List UInt8)
  | [] => .ok []
  | b :: s => if b = byte '.' then skipDigits atEnd s else .ok (b :: s)

/-- What is left behind a plus or a minus sign. -/
def skipSign : List UInt8 → List UInt8
  | [] => []
  | b :: s => if b = byte '+' ∨ b = byte '-' then s else b :: s

/-- Passes over an exponent, if there is one. -/
def skipExponent (atEnd : Fault) : List UInt8 → Except Fault (List UInt8)
  | [] => .ok []
  | b :: s =>
    if b = byte 'e' ∨ b = byte 'E' then skipDigits atEnd (skipSign s) else .ok (b :: s)

/-- Passes over a number without its minus sign. -/
def skipUnsigned (atEnd : Fault) (s : List UInt8) : Except Fault (List UInt8) := do
  let s ← skipWhole atEnd s
  let s ← skipFraction atEnd s
  skipExponent atEnd s

theorem length_skipDigits {e : Fault} {s r : List UInt8} (h : skipDigits e s = .ok r) :
    r.length < s.length := by
  cases s with
  | nil => cases h
  | cons b s =>
    simp only [skipDigits] at h
    split at h
    · cases h
      exact Nat.lt_succ_of_le (List.dropWhile_sublist _).length_le
    · cases h

theorem length_skipWhole {e : Fault} {s r : List UInt8} (h : skipWhole e s = .ok r) :
    r.length < s.length := by
  cases s with
  | nil => cases h
  | cons b s =>
    simp only [skipWhole] at h
    split at h
    · split at h
      · cases h
        exact Nat.zero_lt_one
      · split at h
        · cases h
        · cases h
          exact Nat.lt_succ_self _
    · split at h
      · cases h
        exact Nat.lt_succ_of_le (List.dropWhile_sublist _).length_le
      · cases h

theorem length_skipFraction {e : Fault} {s r : List UInt8} (h : skipFraction e s = .ok r) :
    r.length ≤ s.length := by
  cases s with
  | nil => cases h; exact Nat.le_refl _
  | cons b s =>
    simp only [skipFraction] at h
    split at h
    · exact Nat.le_succ_of_le (Nat.le_of_lt (length_skipDigits h))
    · cases h
      exact Nat.le_refl _

theorem length_skipSign (s : List UInt8) : (skipSign s).length ≤ s.length := by
  cases s with
  | nil => exact Nat.le_refl _
  | cons b s =>
    simp only [skipSign]
    split
    · exact Nat.le_succ _
    · exact Nat.le_refl _

theorem length_skipExponent {e : Fault} {s r : List UInt8} (h : skipExponent e s = .ok r) :
    r.length ≤ s.length := by
  cases s with
  | nil => cases h; exact Nat.le_refl _
  | cons b s =>
    simp only [skipExponent] at h
    split at h
    · exact Nat.le_succ_of_le
        (Nat.le_trans (Nat.le_of_lt (length_skipDigits h)) (length_skipSign s))
    · cases h
      exact Nat.le_refl _

theorem length_skipUnsigned {e : Fault} {s r : List UInt8} (h : skipUnsigned e s = .ok r) :
    r.length < s.length := by
  simp only [skipUnsigned, bind, Except.bind] at h
  split at h
  · cases h
  · next h₁ =>
    split at h
    · cases h
    · next h₂ =>
      exact Nat.lt_of_le_of_lt
        (Nat.le_trans (length_skipExponent h) (length_skipFraction h₂)) (length_skipWhole h₁)

/-! ## Texts -/

/-- What the letter behind a backslash stands for, `u` aside. -/
def escaped? (b : UInt8) : Option UInt8 :=
  if b = byte '"' then some 0x22
  else if b = byte '\\' then some 0x5C
  else if b = byte '/' then some 0x2F
  else if b = byte 'b' then some 0x08
  else if b = byte 'f' then some 0x0C
  else if b = byte 'n' then some 0x0A
  else if b = byte 'r' then some 0x0D
  else if b = byte 't' then some 0x09
  else none

/-- Passes over an escape, behind its backslash. -/
def skipEscape : List UInt8 → Except Fault (List UInt8)
  | [] => .error .truncated
  | e :: s =>
    if (escaped? e).isSome then .ok s
    else if e = byte 'u' then
      match readHex4 s with
      | .error f => .error f
      | .ok r => .ok r.2
    else .error .malformed

theorem length_skipEscape {s r : List UInt8} (h : skipEscape s = .ok r) :
    r.length < s.length := by
  unfold skipEscape at h
  split at h
  · cases h
  split at h
  · cases h
    exact Nat.lt_succ_self _
  split at h
  · split at h
    · cases h
    next hr =>
      cases h
      exact Nat.lt_succ_of_lt (length_readHex4 hr)
  · cases h

/-- Passes over a text, behind its opening quote.  The bytes need not be UTF-8, nor need the
escapes pair up as surrogates. -/
def skipText : List UInt8 → Except Fault (List UInt8)
  | [] => .error .truncated
  | b :: s =>
    if b = byte '"' then .ok s
    else if b = byte '\\' then
      match _h : skipEscape s with
      | .error e => .error e
      | .ok r => skipText r
    else if b < 0x20 then .error .malformed
    else skipText s
termination_by s => s.length
decreasing_by
  · exact Nat.lt_succ_of_lt (length_skipEscape _h)
  · exact Nat.lt_succ_self _

theorem length_skipText {s r : List UInt8} (h : skipText s = .ok r) : r.length < s.length := by
  fun_induction skipText s with
  | case1 => cases h
  | case2 => cases h; exact Nat.lt_succ_self _
  | case3 => cases h
  | case4 =>
    next ih =>
      exact Nat.lt_succ_of_lt (Nat.lt_trans (ih h) (length_skipEscape (by assumption)))
  | case5 => cases h
  | case6 =>
    next ih => exact Nat.lt_succ_of_lt (ih h)

end RecordGateway.Json
