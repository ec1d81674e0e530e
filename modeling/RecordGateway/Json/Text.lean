import RecordGateway.Json.Scan
import RecordGateway.Text.Encoding

/-!
# JSON texts and what they stand for

Reading a text resolves its escapes, pairs up surrogates and asks for UTF-8.  Writing one escapes
the quote, the backslash and the control characters and leaves all else as it is.
-/

namespace RecordGateway.Json

/-- The character of a leading and a trailing surrogate. -/
def surrogatePair (n m : Nat) : Char :=
  Char.ofNat ((n - 0xD800) * 0x400 + (m - 0xDC00) + 0x10000)

/-- Reads what stands behind `\u`: a character of its own, or two halves of a surrogate pair. -/
def readUnicode (s : List UInt8) : Except Fault (Char × List UInt8) :=
  match readHex4 s with
  | .error e => .error e
  | .ok (n, s) =>
    if 0xDC00 ≤ n ∧ n ≤ 0xDFFF then .error .malformed
    else if n < 0xD800 ∨ 0xDBFF < n then .ok (Char.ofNat n, s)
    else
      match s with
      | [] => .error .truncated
      | b :: s =>
        if b = byte '\\' then
          match s with
          | [] => .error .truncated
          | u :: s =>
            if u = byte 'u' then
              match readHex4 s with
              | .error e => .error e
              | .ok (m, s) =>
                if 0xDC00 ≤ m ∧ m ≤ 0xDFFF then .ok (surrogatePair n m, s)
                else .error .malformed
            else .error .malformed
        else .error .malformed

theorem length_readUnicode {s : List UInt8} {r : Char × List UInt8}
    (h : readUnicode s = .ok r) : r.2.length < s.length := by
  unfold readUnicode at h
  split at h
  · cases h
  next n t ht =>
    have h₁ := length_readHex4 ht
    split at h
    · cases h
    split at h
    · cases h
      exact h₁
    split at h
    · cases h
    split at h
    · split at h
      · cases h
      split at h
      · split at h
        · cases h
        next hm =>
          have h₂ := length_readHex4 hm
          split at h
          · rw [← Except.ok.inj h]
            exact Nat.lt_trans h₂ (Nat.lt_trans (Nat.lt_succ_of_lt (Nat.lt_succ_self _)) h₁)
          · cases h
      · cases h
    · cases h

/-- Reads an escape, behind its backslash: the bytes it stands for. -/
def readEscape : List UInt8 → Except Fault (List UInt8 × List UInt8)
  | [] => .error .truncated
  | e :: s =>
    match escaped? e with
    | some b => .ok ([b], s)
    | none =>
      if e = byte 'u' then
        match readUnicode s with
        | .error f => .error f
        | .ok (c, s) => .ok (String.utf8EncodeChar c, s)
      else .error .malformed

theorem length_readEscape {s : List UInt8} {r : List UInt8 × List UInt8}
    (h : readEscape s = .ok r) : r.2.length < s.length := by
  unfold readEscape at h
  split at h
  · cases h
  split at h
  · cases h
    exact Nat.lt_succ_self _
  split at h
  · split at h
    · cases h
    next hr =>
      cases h
      exact Nat.lt_succ_of_lt (length_readUnicode hr)
  · cases h

/-- Reads the bytes of a text, behind its opening quote; `done` are the bytes before, the last of
them first. -/
def readBytes (done : List UInt8) : List UInt8 → Except Fault (List UInt8 × List UInt8)
  | [] => .error .truncated
  | b :: s =>
    if b = byte '"' then .ok (done.reverse, s)
    else if b = byte '\\' then
      match _h : readEscape s with
      | .error e => .error e
      | .ok (bytes, r) => readBytes (bytes.reverse ++ done) r
    else if b < 0x20 then .error .malformed
    else readBytes (b :: done) s
termination_by s => s.length
decreasing_by
  · exact Nat.lt_succ_of_lt (length_readEscape _h)
  · exact Nat.lt_succ_self _

theorem length_readBytes {done s : List UInt8} {r : List UInt8 × List UInt8}
    (h : readBytes done s = .ok r) : r.2.length < s.length := by
  fun_induction readBytes done s
  case case1 | case3 | case5 => cases h
  case case2 =>
    cases h
    exact Nat.lt_succ_self _
  case case4 =>
    rename_i ih
    exact Nat.lt_succ_of_lt
      (Nat.lt_trans (ih h) (length_readEscape ‹readEscape _ = _›))
  case case6 =>
    rename_i ih
    exact Nat.lt_succ_of_lt (ih h)

/-- Reads a text, behind its opening quote. -/
def readText (s : List UInt8) : Except Fault (String × List UInt8) :=
  match readBytes [] s with
  | .error e => .error e
  | .ok (bytes, r) =>
    match Text.Utf8.decode bytes with
    | none => .error .malformed
    | some t => .ok (t, r)

theorem length_readText {s : List UInt8} {r : String × List UInt8}
    (h : readText s = .ok r) : r.2.length < s.length := by
  unfold readText at h
  split at h
  · cases h
  next hb =>
    split at h
    · cases h
    · cases h
      exact length_readBytes hb

/-! ## Writing -/

/-- A hexadecimal digit, letters small. -/
def hexDigit (n : Nat) : Char := if n < 10 then Char.ofNat (48 + n) else Char.ofNat (87 + n)

/-- How one character stands in a written text. -/
def escape (c : Char) : List Char :=
  if c = '"' then ['\\', '"']
  else if c = '\\' then ['\\', '\\']
  else if c = '\n' then ['\\', 'n']
  else if c = '\r' then ['\\', 'r']
  else if c = '\t' then ['\\', 't']
  else if c = '\x08' then ['\\', 'b']
  else if c = '\x0c' then ['\\', 'f']
  else if c.toNat < 0x20 then
    ['\\', 'u', '0', '0', hexDigit (c.toNat / 16), hexDigit (c.toNat % 16)]
  else [c]

/-- A text as JSON writes it. -/
def render (s : String) : String :=
  String.ofList ('"' :: s.toList.flatMap escape ++ ['"'])

end RecordGateway.Json
