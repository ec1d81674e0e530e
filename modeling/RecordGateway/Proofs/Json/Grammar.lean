import RecordGateway.Json.Value

/-!
# The grammar of JSON

Which bytes are blanks, numbers, texts and values, said without reading them, and which bytes
spell which text.  Blanks stand between the tokens of a value, not around it.  The bytes of a text
inside a value need not be UTF-8 and its escapes need not pair up as surrogates; bytes that spell
a text do both.
-/

namespace RecordGateway.Json

/-- Nothing but blanks. -/
def IsBlanks (s : List UInt8) : Prop := ∀ b ∈ s, isBlank b = true

/-! ## Numbers -/

/-- Digits, at least one. -/
def AreDigits (s : List UInt8) : Prop := s ≠ [] ∧ ∀ b ∈ s, isDigit b = true

/-- A zero, or digits of which the first is none. -/
inductive IsWhole : List UInt8 → Prop
  | zero : IsWhole [byte '0']
  | digits {d ds} (hd : isDigit d = true) (hne : d ≠ byte '0')
      (hds : ∀ b ∈ ds, isDigit b = true) : IsWhole (d :: ds)

/-- Nothing, or a point with digits behind it. -/
inductive IsFraction : List UInt8 → Prop
  | none : IsFraction []
  | some {ds} (hds : AreDigits ds) : IsFraction (byte '.' :: ds)

/-- Nothing, or an `e` with digits behind it that may have a sign. -/
inductive IsExponent : List UInt8 → Prop
  | none : IsExponent []
  | some {e sign ds} (he : e = byte 'e' ∨ e = byte 'E')
      (hsign : sign ∈ [[], [byte '+'], [byte '-']]) (hds : AreDigits ds) :
      IsExponent (e :: sign ++ ds)

/-- A number without its minus sign. -/
inductive IsUnsigned : List UInt8 → Prop
  | mk {w f e} (hw : IsWhole w) (hf : IsFraction f) (he : IsExponent e) : IsUnsigned (w ++ f ++ e)

/-! ## Texts -/

/-- A hexadecimal digit of either case, and its value. -/
def IsHexDigit (n : Nat) (b : UInt8) : Prop :=
  n < 10 ∧ b.toNat = 0x30 + n ∨
    10 ≤ n ∧ n < 16 ∧ (b.toNat = 0x37 + n ∨ b.toNat = 0x57 + n)

/-- Four hexadecimal digits, and their value. -/
inductive IsHex4 : Nat → List UInt8 → Prop
  | mk {i j k l a b c d} (ha : IsHexDigit i a) (hb : IsHexDigit j b) (hc : IsHexDigit k c)
      (hd : IsHexDigit l d) : IsHex4 (((i * 16 + j) * 16 + k) * 16 + l) [a, b, c, d]

/-- The letters that may follow a backslash, `u` aside, and what they stand for. -/
def escapeLetters : List (Char × Char) :=
  [('"', '"'), ('\\', '\\'), ('/', '/'), ('b', '\x08'), ('f', '\x0c'), ('n', '\n'), ('r', '\r'),
   ('t', '\t')]

/-- What may stand between the quotes of a text inside a value. -/
inductive IsBody : List UInt8 → Prop
  | nil : IsBody []
  | raw {b s} (hquote : b ≠ byte '"') (hback : b ≠ byte '\\') (hcontrol : ¬b < 0x20)
      (hs : IsBody s) : IsBody (b :: s)
  | letter {l c s} (hl : (l, c) ∈ escapeLetters) (hs : IsBody s) :
      IsBody (byte '\\' :: byte l :: s)
  | unit {n h s} (hh : IsHex4 n h) (hs : IsBody s) :
      IsBody (byte '\\' :: byte 'u' :: h ++ s)

/-- The ways to write characters between the quotes of a text: as they are, by a letter, by the
number of a character, or by the two halves of a surrogate pair. -/
inductive Spells : List Char → List UInt8 → Prop
  | nil : Spells [] []
  | raw {c cs s} (hquote : c ≠ '"') (hback : c ≠ '\\') (hcontrol : 0x20 ≤ c.toNat)
      (hs : Spells cs s) : Spells (c :: cs) (String.utf8EncodeChar c ++ s)
  | letter {l c cs s} (hl : (l, c) ∈ escapeLetters) (hs : Spells cs s) :
      Spells (c :: cs) (byte '\\' :: byte l :: s)
  | unit {c h cs s} (hh : IsHex4 c.toNat h) (hs : Spells cs s) :
      Spells (c :: cs) (byte '\\' :: byte 'u' :: h ++ s)
  | pair {c n m h h' cs s} (hn : 0xD800 ≤ n ∧ n ≤ 0xDBFF) (hm : 0xDC00 ≤ m ∧ m ≤ 0xDFFF)
      (hc : c.toNat = (n - 0xD800) * 0x400 + (m - 0xDC00) + 0x10000) (hh : IsHex4 n h)
      (hh' : IsHex4 m h') (hs : Spells cs s) :
      Spells (c :: cs) (byte '\\' :: byte 'u' :: h ++ byte '\\' :: byte 'u' :: h' ++ s)

/-- A text in quotes. -/
inductive IsText (t : String) : List UInt8 → Prop
  | mk {s} (hs : Spells t.toList s) : IsText t (byte '"' :: s ++ [byte '"'])

/-- A key in quotes and the colon behind it, up to where the value begins. -/
inductive IsKey (k : String) : List UInt8 → Prop
  | mk {q w w'} (hq : IsText k q) (hw : IsBlanks w) (hw' : IsBlanks w') :
      IsKey k (q ++ w ++ byte ':' :: w')

/-! ## Values -/

/-- A value that is no list or object. -/
inductive IsScalar : List UInt8 → Prop
  | null : IsScalar [byte 'n', byte 'u', byte 'l', byte 'l']
  | true : IsScalar [byte 't', byte 'r', byte 'u', byte 'e']
  | false : IsScalar [byte 'f', byte 'a', byte 'l', byte 's', byte 'e']
  | unsigned {s} (hs : IsUnsigned s) : IsScalar s
  | negative {s} (hs : IsUnsigned s) : IsScalar (byte '-' :: s)
  | text {s} (hs : IsBody s) : IsScalar (byte '"' :: s ++ [byte '"'])

/-- The byte that opens a bracket. -/
def Bracket.opening : Bracket → UInt8
  | list => byte '['
  | object => byte '{'

/-- What stands before the value of a member. -/
inductive IsLabel : Bracket → List UInt8 → Prop
  | list : IsLabel .list []
  | object {s w w'} (hs : IsBody s) (hw : IsBlanks w) (hw' : IsBlanks w') :
      IsLabel .object (byte '"' :: s ++ byte '"' :: w ++ byte ':' :: w')

/-- The parts of values: a whole value, and what is left of a bracket behind a member. -/
inductive Part
  | value
  | tail (k : Bracket)

/-- The bytes of the parts of values, of any size and depth. -/
inductive IsPart : Part → List UInt8 → Prop
  | scalar {s} (hs : IsScalar s) : IsPart .value s
  | empty {k w} (hw : IsBlanks w) : IsPart .value (Bracket.opening k :: w ++ [k.close])
  | filled {k w l v t} (hw : IsBlanks w) (hl : IsLabel k l) (hv : IsPart .value v)
      (ht : IsPart (.tail k) t) : IsPart .value (Bracket.opening k :: w ++ l ++ v ++ t)
  | close {k w} (hw : IsBlanks w) : IsPart (.tail k) (w ++ [k.close])
  | comma {k w w' l v t} (hw : IsBlanks w) (hw' : IsBlanks w') (hl : IsLabel k l)
      (hv : IsPart .value v) (ht : IsPart (.tail k) t) :
      IsPart (.tail k) (w ++ byte ',' :: w' ++ l ++ v ++ t)

/-- A value of any kind. -/
def IsValue (s : List UInt8) : Prop := IsPart .value s

/-! ## Objects of a given kind of members -/

/-- What is left of an object behind a member, `Member` saying how a member is written. -/
inductive IsObjectTail {α : Type} (Member : α → List UInt8 → Prop) : List α → List UInt8 → Prop
  | close {w} (hw : IsBlanks w) : IsObjectTail Member [] (w ++ [byte '}'])
  | comma {w w' a m as t} (hw : IsBlanks w) (hw' : IsBlanks w') (hm : Member a m)
      (ht : IsObjectTail Member as t) :
      IsObjectTail Member (a :: as) (w ++ byte ',' :: w' ++ m ++ t)

/-- An object behind its opening bracket. -/
inductive IsObject {α : Type} (Member : α → List UInt8 → Prop) : List α → List UInt8 → Prop
  | empty {w} (hw : IsBlanks w) : IsObject Member [] (w ++ [byte '}'])
  | filled {w a m as t} (hw : IsBlanks w) (hm : Member a m) (ht : IsObjectTail Member as t) :
      IsObject Member (a :: as) (w ++ m ++ t)

end RecordGateway.Json
