import RecordGateway.Json.Scan

/-!
# Passing over JSON values

A value of any size and depth is passed over with the brackets that are open kept on a stack, so
that no nesting is too deep.  Of texts inside it only the grammar is looked at.
-/

namespace RecordGateway.Json

/-- The two kinds of brackets around values. -/
inductive Bracket
  | list
  | object
  deriving DecidableEq, Repr

/-- The byte that closes a bracket. -/
def Bracket.close : Bracket → UInt8
  | list => byte ']'
  | object => byte '}'

/-- What may come next. -/
inductive Expecting
  /-- A value. -/
  | value
  /-- The first member of the bracket just opened, or its end. -/
  | firstMember
  /-- A comma, or the end of the bracket. -/
  | nextMember
  deriving DecidableEq, Repr

/-- Passes over a value that begins with the byte `b` and is no list or object. -/
def skipScalar (b : UInt8) (s : List UInt8) : Except Fault (List UInt8) :=
  if b = byte 'n' then expect [byte 'u', byte 'l', byte 'l'] s
  else if b = byte 't' then expect [byte 'r', byte 'u', byte 'e'] s
  else if b = byte 'f' then expect [byte 'a', byte 'l', byte 's', byte 'e'] s
  else if b = byte '-' then skipUnsigned .malformed s
  else if isDigit b then skipUnsigned .malformed (b :: s)
  else if b = byte '"' then skipText s
  else .error .malformed

/-- Passes over a quoted key and the colon behind it. -/
def skipKey (s : List UInt8) : Except Fault (List UInt8) :=
  match skipBlank s with
  | [] => .error .truncated
  | q :: t =>
    if q = byte '"' then
      match skipText t with
      | .error e => .error e
      | .ok t =>
        match skipBlank t with
        | [] => .error .truncated
        | c :: t => if c = byte ':' then .ok t else .error .malformed
    else .error .malformed

/-- Passes over what stands before the value of a member. -/
def Bracket.skipLabel : Bracket → List UInt8 → Except Fault (List UInt8)
  | list, s => .ok s
  | object, s => skipKey s

theorem length_skipScalar {b : UInt8} {s r : List UInt8} (h : skipScalar b s = .ok r) :
    r.length ≤ s.length := by
  unfold skipScalar at h
  split at h
  · exact length_expect h
  split at h
  · exact length_expect h
  split at h
  · exact length_expect h
  split at h
  · exact Nat.le_of_lt (length_skipUnsigned h)
  split at h
  · exact Nat.le_of_lt_succ (length_skipUnsigned h)
  split at h
  · exact Nat.le_of_lt (length_skipText h)
  · cases h

theorem length_skipKey {s r : List UInt8} (h : skipKey s = .ok r) : r.length < s.length := by
  unfold skipKey at h
  split at h
  · cases h
  next hs =>
    split at h
    · split at h
      · cases h
      next ht =>
        split at h
        · cases h
        next hc =>
          split at h
          · cases h
            exact Nat.lt_trans (length_of_skipBlank hc)
              (Nat.lt_trans (length_skipText ht) (length_of_skipBlank hs))
          · cases h
    · cases h

theorem Bracket.length_skipLabel {k : Bracket} {s r : List UInt8} (h : k.skipLabel s = .ok r) :
    r.length ≤ s.length := by
  cases k with
  | list => cases h; exact Nat.le_refl _
  | object => exact Nat.le_of_lt (length_skipKey h)

/-- Passes over what is left of a value, `stack` being the brackets that are open around the
place where reading stands. -/
def skipOpen (stack : List Bracket) (expecting : Expecting) (s : List UInt8) :
    Except Fault (List UInt8) :=
  match expecting, stack with
  | .value, stack =>
    match _hs : skipBlank s with
    | [] => .error .truncated
    | b :: t =>
      if b = byte '[' then skipOpen (.list :: stack) .firstMember t
      else if b = byte '{' then skipOpen (.object :: stack) .firstMember t
      else
        match _hr : skipScalar b t with
        | .error e => .error e
        | .ok r => skipOpen stack .nextMember r
  | _, [] => .ok s
  | .firstMember, k :: stack =>
    match _hs : skipBlank s with
    | [] => .error .truncated
    | b :: t =>
      if b = k.close then skipOpen stack .nextMember t
      else
        match _hr : k.skipLabel (b :: t) with
        | .error e => .error e
        | .ok r => skipOpen (k :: stack) .value r
  | .nextMember, k :: stack =>
    match _hs : skipBlank s with
    | [] => .error .truncated
    | b :: t =>
      if b = k.close then skipOpen stack .nextMember t
      else if b = byte ',' then
        match _hr : k.skipLabel t with
        | .error e => .error e
        | .ok r => skipOpen (k :: stack) .value r
      else .error .malformed
termination_by 2 * s.length + if expecting = .firstMember then 1 else 0
decreasing_by
  · have := length_of_skipBlank _hs
    simp
    omega
  · have := length_of_skipBlank _hs
    simp
    omega
  · have := length_of_skipBlank _hs
    have := length_skipScalar _hr
    simp
    omega
  · have := length_of_skipBlank _hs
    simp
    omega
  · have := length_of_skipBlank _hs
    have := Bracket.length_skipLabel _hr
    simp only [List.length_cons] at this
    simp
    omega
  · have := length_of_skipBlank _hs
    simp
    omega
  · have := length_of_skipBlank _hs
    have := Bracket.length_skipLabel _hr
    simp
    omega

/-- What is left is shorter where a value was to come, and never longer. -/
theorem length_skipOpen {stack : List Bracket} {expecting : Expecting} {s r : List UInt8}
    (h : skipOpen stack expecting s = .ok r) :
    r.length + (if expecting = .value then 1 else 0) ≤ s.length := by
  fun_induction skipOpen stack expecting s
  case case1 | case4 | case7 | case9 | case11 | case13 | case15 => cases h
  case case2 | case3 | case8 | case12 =>
    rename_i ih
    have := ih h
    have := length_of_skipBlank ‹skipBlank _ = _›
    simp at *
    omega
  case case5 =>
    rename_i hr ih
    have := ih h
    have := length_of_skipBlank ‹skipBlank _ = _›
    have := length_skipScalar hr
    simp at *
    omega
  case case6 hne =>
    cases h
    simp [show ¬_ from hne]
  case case10 =>
    rename_i hr ih
    have := ih h
    have := length_of_skipBlank ‹skipBlank _ = _›
    have := Bracket.length_skipLabel hr
    simp at *
    omega
  case case14 =>
    rename_i ih
    have := ih h
    have := length_of_skipBlank ‹skipBlank _ = _›
    have := Bracket.length_skipLabel ‹Bracket.skipLabel _ _ = _›
    simp at *
    omega

/-- Passes over a value. -/
def skipValue (s : List UInt8) : Except Fault (List UInt8) := skipOpen [] .value s

theorem length_skipValue {s r : List UInt8} (h : skipValue s = .ok r) : r.length < s.length :=
  length_skipOpen h

end RecordGateway.Json
