import RecordGateway.Proofs.Http.Header
import RecordGateway.Proofs.Http.Pipeline
import RecordGateway.Proofs.Number.Digits

/-!
# What declares the length of a body

A header value declares a number if it is digits, perhaps behind a plus sign, between white space.
A body is taken as declared exactly if the first `Content-Length` declares its length and that is
below `2 ^ 64`; it is said of any other why it is not, and nothing but an error of transport comes
of it.
-/

namespace RecordGateway.Http

open Decimal

/-- A header value declares a number: it is a row of digits for it, perhaps behind a plus sign,
between white space. -/
def Declares (value : List UInt8) (n : Nat) : Prop :=
  ∃ lead plus ds trail, IsPadding lead ∧ IsPadding trail ∧ (plus = [] ∨ plus = ['+']) ∧
    AreDigits ds ∧ ofDigits ds = n ∧ value = lineBytes (lead ++ (plus ++ ds) ++ trail)

/-- What is to be said of the declared length of a body of `size` bytes. -/
inductive Verdict (headers : List Header) (size : Nat) : Except LengthError Unit → Prop
  | missing (hnone : firstHeader? headers "content-length" = none) :
      Verdict headers size (.error .missing)
  | unreadable {value} (hvalue : firstHeader? headers "content-length" = some value)
      (hlarge : ∀ n, Declares value n → 2 ^ 64 ≤ n) :
      Verdict headers size (.error .unreadable)
  | different {value n} (hvalue : firstHeader? headers "content-length" = some value)
      (hdeclares : Declares value n) (hword : n < 2 ^ 64) (hne : n ≠ size) :
      Verdict headers size (.error (.different n size))
  | fits {value} (hvalue : firstHeader? headers "content-length" = some value)
      (hdeclares : Declares value size) (hword : size < 2 ^ 64) :
      Verdict headers size (.ok ())

variable {headers : List Header} {value : List UInt8} {cs ds lead trail plus : List Char}
  {n m size : Nat}

/-! ## Reading a number -/

theorem lengthDigits_append (hplus : plus = [] ∨ plus = ['+']) (hds : AreDigits ds) :
    lengthDigits (plus ++ ds) = ds := by
  rcases hplus with rfl | rfl
  · obtain ⟨c, cs, rfl⟩ := List.exists_cons_of_ne_nil hds.1
    have hc : c ≠ '+' := by
      rintro rfl
      cases hds.2 _ (.head _)
    rw [List.nil_append]
    unfold lengthDigits
    split
    next heq => exact absurd (List.cons.inj heq).1 hc
    next => rfl
  · rfl

theorem exists_plus (cs : List Char) :
    ∃ plus, (plus = [] ∨ plus = ['+']) ∧ cs = plus ++ lengthDigits cs := by
  unfold lengthDigits
  split
  · exact ⟨['+'], .inr rfl, rfl⟩
  · exact ⟨[], .inl rfl, rfl⟩

theorem parseLength?_eq_some_iff :
    parseLength? cs = some n ↔
      AreDigits (lengthDigits cs) ∧ ofDigits (lengthDigits cs) = n ∧ n < 2 ^ 64 := by
  have hdigits : ((lengthDigits cs).isEmpty || !(lengthDigits cs).all Char.isDigit) = true ↔
      ¬AreDigits (lengthDigits cs) := by
    rw [← Bool.not_eq_false, not_iff_not, Bool.or_eq_false_iff, List.isEmpty_eq_false_iff,
      Bool.not_eq_false', List.all_eq_true, AreDigits]
  rw [parseLength?]
  by_cases hds : AreDigits (lengthDigits cs)
  · rw [if_neg (mt hdigits.1 (not_not.2 hds)), Option.ite_none_right_eq_some, Option.some.injEq]
    constructor
    · rintro ⟨hword, rfl⟩
      exact ⟨hds, rfl, hword⟩
    · rintro ⟨-, rfl, hword⟩
      exact ⟨hword, rfl⟩
  · rw [if_pos (hdigits.2 hds)]
    simp [hds]

/-- A number and its sign have no blanks. -/
theorem isTight_number (hplus : plus = [] ∨ plus = ['+']) (hds : AreDigits ds) :
    Text.IsTight (plus ++ ds) := by
  refine Text.isTight_of_forall fun c hc ↦ ?_
  rcases List.mem_append.1 hc with hc | hc
  · rcases hplus with rfl | rfl
    · cases hc
    · rw [List.mem_singleton.1 hc]
      rfl
  · exact Text.isBlank_of_isDigit (hds.2 c hc)

theorem isReadable_of_areDigits (hds : AreDigits ds) : IsReadable ds := by
  intro c hc
  obtain ⟨hlow, hhigh⟩ := Char.isDigit_iff_toNat.1 (hds.2 c hc)
  have hzero : '0'.toNat = 48 := rfl
  have hnine : '9'.toNat = 57 := rfl
  omega

theorem isReadable_number (hlead : IsPadding lead) (hplus : plus = [] ∨ plus = ['+'])
    (hds : AreDigits ds) (htrail : IsPadding trail) :
    IsReadable (lead ++ (plus ++ ds) ++ trail) := by
  intro c hc
  simp only [List.mem_append] at hc
  rcases hc with (hc | hc | hc) | hc
  · exact hlead.isReadable c hc
  · rcases hplus with rfl | rfl
    · cases hc
    · rw [List.mem_singleton.1 hc]
      exact .inr (by decide)
  · exact isReadable_of_areDigits hds c hc
  · exact htrail.isReadable c hc

/-- A header value declares a number if the line that it is read as is one, its white space
aside. -/
theorem declares_iff : Declares value n ↔ ∃ line, readValue? value = some line ∧
    AreDigits (lengthDigits (Text.trim line)) ∧ ofDigits (lengthDigits (Text.trim line)) = n := by
  constructor
  · rintro ⟨lead, plus, ds, trail, hlead, htrail, hplus, hds, hn, rfl⟩
    refine ⟨_, readValue?_eq_some_iff.2 ⟨isReadable_number hlead hplus hds htrail, rfl⟩, ?_⟩
    rw [Text.trim_append hlead.areBlank (isTight_number hplus hds) htrail.areBlank,
      lengthDigits_append hplus hds]
    exact ⟨hds, hn⟩
  · rintro ⟨line, hline, hds, hn⟩
    obtain ⟨hread, rfl⟩ := readValue?_eq_some_iff.1 hline
    obtain ⟨lead, trail, hlead, htrail, hparts⟩ := Text.exists_trim line
    obtain ⟨plus, hplus, hnumber⟩ := exists_plus (Text.trim line)
    have hsub {cs : List Char} (hcs : cs ⊆ line) : IsReadable cs := fun c hc ↦ hread c (hcs hc)
    refine ⟨lead, plus, _, trail, isPadding_of_areBlank hlead (hsub ?_),
      isPadding_of_areBlank htrail (hsub ?_), hplus, hds, hn, by rw [← hnumber, ← hparts]⟩
    all_goals
      rw [hparts]
      intro c hc
      simp [hc]

theorem Declares.unique (h : Declares value n) (h' : Declares value m) : n = m := by
  obtain ⟨line, hline, -, rfl⟩ := declares_iff.1 h
  obtain ⟨line', hline', -, rfl⟩ := declares_iff.1 h'
  rw [hline] at hline'
  rw [Option.some.inj hline']

/-- The number in a header value is read if it fits into a word. -/
theorem bind_parseLength?_eq_some_iff :
    ((readValue? value).bind fun line ↦ parseLength? (Text.trim line)) = some n ↔
      Declares value n ∧ n < 2 ^ 64 := by
  rw [Option.bind_eq_some_iff, declares_iff]
  simp only [parseLength?_eq_some_iff]
  constructor
  · rintro ⟨line, hline, hds, hn, hword⟩
    exact ⟨⟨line, hline, hds, hn⟩, hword⟩
  · rintro ⟨⟨line, hline, hds, hn⟩, hword⟩
    exact ⟨line, hline, hds, hn, hword⟩

/-- A number read in words of 64 bits is the one that is declared. -/
theorem parseLength?_eq_readDigits? (hds : AreDigits (lengthDigits cs)) :
    parseLength? cs = (readDigits? (lengthDigits cs)).map UInt64.toNat := by
  ext n
  rw [parseLength?_eq_some_iff, Option.map_eq_some_iff]
  simp only [readDigits?_eq_some_iff hds.2]
  constructor
  · rintro ⟨-, rfl, hword⟩
    exact ⟨UInt64.ofNat (ofDigits (lengthDigits cs)),
      (UInt64.toNat_ofNat_of_lt' hword).symm, UInt64.toNat_ofNat_of_lt' hword⟩
  · rintro ⟨word, hvalue, rfl⟩
    exact ⟨hds, hvalue, word.toNat_lt_size⟩

/-! ## The check -/

theorem verdict_checkLength (headers : List Header) (size : Nat) :
    Verdict headers size (checkLength headers size) := by
  rw [checkLength]
  cases hvalue : firstHeader? headers "content-length" with
  | none => exact .missing hvalue
  | some value =>
    dsimp only
    cases hread : (readValue? value).bind fun line ↦ parseLength? (Text.trim line) with
    | none =>
      refine .unreadable hvalue fun n hdeclares ↦ Nat.le_of_not_lt fun hword ↦ ?_
      rw [bind_parseLength?_eq_some_iff.2 ⟨hdeclares, hword⟩] at hread
      cases hread
    | some declared =>
      obtain ⟨hdeclares, hword⟩ := bind_parseLength?_eq_some_iff.1 hread
      dsimp only
      split
      next h =>
        subst h
        exact .fits hvalue hdeclares hword
      next hne => exact .different hvalue hdeclares hword hne

theorem Verdict.checkLength_eq {x : Except LengthError Unit} (h : Verdict headers size x) :
    checkLength headers size = x := by
  rw [checkLength]
  cases h with
  | missing hnone => rw [hnone]
  | @unreadable value hvalue hlarge =>
    have hread : ((readValue? value).bind fun line ↦ parseLength? (Text.trim line)) = none := by
      rw [Option.eq_none_iff_forall_ne_some]
      intro n hn
      obtain ⟨hdeclares, hword⟩ := bind_parseLength?_eq_some_iff.1 hn
      exact Nat.not_lt.2 (hlarge n hdeclares) hword
    simp only [hvalue, hread]
  | different hvalue hdeclares hword hne =>
    simp only [hvalue, bind_parseLength?_eq_some_iff.2 ⟨hdeclares, hword⟩, if_neg hne]
  | fits hvalue hdeclares hword =>
    simp only [hvalue, bind_parseLength?_eq_some_iff.2 ⟨hdeclares, hword⟩, if_pos]

theorem checkLength_eq_iff {x : Except LengthError Unit} :
    checkLength headers size = x ↔ Verdict headers size x :=
  ⟨fun h ↦ h ▸ verdict_checkLength headers size, Verdict.checkLength_eq⟩

/-- The first field of a name is found behind fields of other names. -/
theorem firstHeader?_eq_some_iff {name : String} :
    firstHeader? headers name = some value ↔ ∃ before field after,
      headers = before ++ field :: after ∧
        (∀ h ∈ before, Text.sameIgnoringCase h.name name = false) ∧
        Text.sameIgnoringCase field.name name = true ∧ field.value = value := by
  rw [firstHeader?, Option.map_eq_some_iff]
  simp only [List.find?_eq_some_iff_append, Bool.not_eq_true']
  constructor
  · rintro ⟨field, ⟨hname, before, after, heq, hbefore⟩, hvalue⟩
    exact ⟨before, field, after, heq, hbefore, hname, hvalue⟩
  · rintro ⟨before, field, after, heq, hbefore, hname, hvalue⟩
    exact ⟨field, ⟨hname, before, after, heq, hbefore⟩, hvalue⟩

/-- A length that is not as declared is an error of transport. -/
theorem receive_of_checkLength_error {body : List UInt8} {e : LengthError}
    (h : checkLength headers body.length = .error e) :
    receive headers body = .error (.transport e.message) := by
  rw [receive, h]

/-- **The declared length.**  A body is as long as declared exactly if there is a `Content-Length`
and the first one is, between spaces and tabs, a row of digits, perhaps behind a plus sign, that
stands for the length of the body, which is below `2 ^ 64`.  Otherwise the request fails with an
error of transport that says why.  A number that does not fit into a word is taken for no other
number: it cannot be read, and digits are read in words of 64 bits as what they stand for or not at
all.  Digits stand for a number if they are those that it is printed with, behind zeros. -/
theorem length_check_exact (headers : List Header) (body : List UInt8) :
    (checkLength headers body.length = .ok () ↔
      body.length < 2 ^ 64 ∧ ∃ before field after, headers = before ++ field :: after ∧
        (∀ h ∈ before, Text.sameIgnoringCase h.name "content-length" = false) ∧
        Text.sameIgnoringCase field.name "content-length" = true ∧
        ∃ lead plus ds trail, IsPadding lead ∧ IsPadding trail ∧ (plus = [] ∨ plus = ['+']) ∧
          AreDigits ds ∧ ofDigits ds = body.length ∧
          field.value = lineBytes (lead ++ (plus ++ ds) ++ trail)) ∧
    (checkLength headers body.length = .ok () ∨
      ∃ e, Verdict headers body.length (.error e) ∧
        checkLength headers body.length = .error e ∧
        receive headers body = .error (.transport e.message)) ∧
    (∀ value n, firstHeader? headers "content-length" = some value → Declares value n →
      2 ^ 64 ≤ n → checkLength headers body.length = .error .unreadable) ∧
    (∀ cs, AreDigits (lengthDigits cs) →
      parseLength? cs = (readDigits? (lengthDigits cs)).map UInt64.toNat) ∧
    ∀ ds n, AreDigits ds →
      (ofDigits ds = n ↔ ∃ zeros, ds = List.replicate zeros '0' ++ (toString n).toList) := by
  refine ⟨?_, ?_, ?_, fun cs hds ↦ parseLength?_eq_readDigits? hds, ?_⟩
  · rw [checkLength_eq_iff]
    constructor
    · intro h
      cases h with
      | fits hvalue hdeclares hword =>
        obtain ⟨before, field, after, heq, hbefore, hname, rfl⟩ := firstHeader?_eq_some_iff.1 hvalue
        exact ⟨hword, before, field, after, heq, hbefore, hname, hdeclares⟩
    · rintro ⟨hword, before, field, after, heq, hbefore, hname, hdeclares⟩
      exact .fits (firstHeader?_eq_some_iff.2 ⟨before, field, after, heq, hbefore, hname, rfl⟩)
        hdeclares hword
  · cases hcheck : checkLength headers body.length with
    | ok => exact .inl rfl
    | error e =>
      exact .inr ⟨e, checkLength_eq_iff.1 hcheck, rfl, receive_of_checkLength_error hcheck⟩
  · intro value n hvalue hdeclares hlarge
    rw [checkLength_eq_iff]
    exact .unreadable hvalue fun m hm ↦ hm.unique hdeclares ▸ hlarge
  · intro ds n hds
    rw [ofDigits_eq_iff hds, Nat.toString_eq_ofList_toDigits, String.toList_ofList]

/-- Three bytes, declared with a sign and zeros; and declared by `2 ^ 64 + 3`. -/
theorem length_check_exact_three :
    checkLength [⟨"Content-LENGTH", Text.Utf8.encode "\t+003 "⟩, ⟨"content-length", []⟩] 3
        = .ok () ∧
      checkLength [⟨"content-length", Text.Utf8.encode "18446744073709551619"⟩] 3
        = .error .unreadable := by
  obtain ⟨hfits, -⟩ := length_check_exact
    [⟨"Content-LENGTH", Text.Utf8.encode "\t+003 "⟩, ⟨"content-length", []⟩] [1, 2, 3]
  obtain ⟨-, -, hlarge, -⟩ := length_check_exact
    [⟨"content-length", Text.Utf8.encode "18446744073709551619"⟩] [1, 2, 3]
  have hthree : AreDigits "003".toList := ⟨by simp, by simp⟩
  have hlong : AreDigits "18446744073709551619".toList := ⟨by simp, by simp⟩
  refine ⟨hfits.2 ⟨by decide, [], _, _, rfl, nofun, by decide, ['\t'], ['+'], "003".toList, [' '],
    by decide, by decide, .inr rfl, hthree, by decide, by decide⟩, ?_⟩
  exact hlarge _ (2 ^ 64 + 3) rfl ⟨[], [], "18446744073709551619".toList, [], by decide, by decide,
    .inl rfl, hlong, by decide, by decide⟩ (by decide)

end RecordGateway.Http
