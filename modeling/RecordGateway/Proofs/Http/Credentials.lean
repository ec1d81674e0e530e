import RecordGateway.Http.Header
import RecordGateway.Proofs.Digest.Password
import RecordGateway.Proofs.Http.Header

/-!
# The header values that hold credentials

A header value presents a pair if it is the scheme, in any case of letters, and the Base64 text of
the pair, with a space between them and other white space allowed there and at both ends.  Exactly
the header values that present the user name with a password of the same digest verify, so the
configured pair verifies, unless its user name has a colon: a pair is split at its first colon.
-/

namespace RecordGateway.Http

/-! ## Taking a line apart -/

/-- Where a text is split is not decided in front of the first place where the character stands. -/
theorem splitFirst_append_of_not_mem {c : Char} {xs : List Char} (h : c ∉ xs) (zs : List Char) :
    splitFirst c (xs ++ zs) = (splitFirst c zs).map fun r ↦ (xs ++ r.1, r.2) := by
  induction xs with
  | nil => simp
  | cons d xs ih =>
    rw [List.mem_cons, not_or] at h
    rw [List.cons_append, splitFirst, if_neg (Ne.symm h.1), ih h.2, Option.map_map]
    rfl

theorem splitFirst_append {c : Char} {xs : List Char} (h : c ∉ xs) (ys : List Char) :
    splitFirst c (xs ++ c :: ys) = some (xs, ys) := by
  rw [splitFirst_append_of_not_mem h, splitFirst, if_pos rfl, Option.map_some, List.append_nil]

theorem of_splitFirst {c : Char} {zs xs ys : List Char} (h : splitFirst c zs = some (xs, ys)) :
    c ∉ xs ∧ zs = xs ++ c :: ys := by
  induction zs generalizing xs with
  | nil => cases h
  | cons d zs ih =>
    rw [splitFirst] at h
    split at h
    next hd =>
      cases h
      exact ⟨List.not_mem_nil, by rw [hd]; rfl⟩
    next hd =>
      obtain ⟨⟨us, vs⟩, hrec, heq⟩ := Option.map_eq_some_iff.1 h
      cases heq
      obtain ⟨hmem, rfl⟩ := ih hrec
      exact ⟨List.not_mem_cons_of_ne_of_not_mem (Ne.symm hd) hmem, rfl⟩

theorem splitFirst_eq_some_iff {c : Char} {zs xs ys : List Char} :
    splitFirst c zs = some (xs, ys) ↔ c ∉ xs ∧ zs = xs ++ c :: ys :=
  ⟨of_splitFirst, fun ⟨h, hzs⟩ ↦ hzs ▸ splitFirst_append h ys⟩

/-- The user name and the password that a token stands for. -/
def readToken? (token : List Char) : Option (String × String) := do
  let bytes ← Text.Base64.decode token
  let pair ← Text.Utf8.decode bytes
  let (username, password) ← splitFirst ':' pair.toList
  some (String.ofList username, String.ofList password)

/-- The token of a user name and a password. -/
def pairToken (username password : String) : List Char :=
  Text.Base64.encode (Text.Utf8.encode (username ++ ":" ++ password))

theorem readBasic?_eq (value : List UInt8) :
    readBasic? value
      = (readValue? value).bind fun line ↦ (splitFirst ' ' (Text.trim line)).bind fun parts ↦
          if Text.sameIgnoringCase (String.ofList parts.1) "basic" then
            readToken? (Text.trim parts.2)
          else none := rfl

theorem readToken?_eq_some_iff {token : List Char} {username password : String} :
    readToken? token = some (username, password)
      ↔ ':' ∉ username.toList ∧ token = pairToken username password := by
  simp only [readToken?, Option.bind_eq_bind, Option.bind_eq_some_iff,
    Text.Base64.decode_eq_some_iff, Text.Utf8.decode_eq_some_iff, splitFirst_eq_some_iff,
    Prod.exists, Option.some.injEq, Prod.mk.injEq, pairToken]
  constructor
  · rintro ⟨bytes, rfl, pair, rfl, xs, ys, ⟨hxs, hpair⟩, rfl, rfl⟩
    rw [String.toList_ofList]
    have htext : pair = String.ofList xs ++ ":" ++ String.ofList ys :=
      String.toList_inj.1 (by simp [hpair])
    exact ⟨hxs, by rw [htext]⟩
  · rintro ⟨hcolon, rfl⟩
    refine ⟨_, rfl, _, rfl, username.toList, password.toList, ⟨hcolon, ?_⟩,
      String.ofList_toList, String.ofList_toList⟩
    simp

theorem isWord_pairToken (username password : String) : IsWord (pairToken username password) := by
  refine ⟨Text.Base64.encode_ne_nil fun h ↦ ?_, fun c hc ↦ Text.Base64.visible_of_mem_encode hc⟩
  have htext : username ++ ":" ++ password = "" := Text.Utf8.encode_injective h
  simp at htext

/-! ## Reading a line -/

/-- White space around a scheme and a token, which a separator and perhaps more white space
divide. -/
def headerLine (lead scheme : List Char) (sep : Char) (gap token trail : List Char) : List Char :=
  lead ++ (scheme ++ sep :: (gap ++ token)) ++ trail

section

variable {lead scheme gap token trail : List Char} {sep : Char}

theorem readValue?_headerLine (hlead : IsPadding lead) (hscheme : IsWord scheme)
    (hsep : IsPadding [sep]) (hgap : IsPadding gap) (htoken : IsWord token)
    (htrail : IsPadding trail) :
    readValue? (lineBytes (headerLine lead scheme sep gap token trail))
      = some (headerLine lead scheme sep gap token trail) := by
  refine readValue?_eq_some_iff.2 ⟨fun c hc ↦ ?_, rfl⟩
  simp only [headerLine, List.mem_append, List.mem_cons] at hc
  rcases hc with (hc | hc | rfl | hc | hc) | hc
  · exact hlead.isReadable c hc
  · exact hscheme.isReadable c hc
  · exact hsep.isReadable c (.head _)
  · exact hgap.isReadable c hc
  · exact htoken.isReadable c hc
  · exact htrail.isReadable c hc

theorem trim_headerLine (hlead : IsPadding lead) (hscheme : IsWord scheme) (htoken : IsWord token)
    (htrail : IsPadding trail) :
    Text.trim (headerLine lead scheme sep gap token trail) = scheme ++ sep :: (gap ++ token) :=
  Text.trim_append hlead.areBlank
    (hscheme.isTight.append hscheme.1 htoken.isTight htoken.1 (sep :: gap)) htrail.areBlank

/-- The scheme is a word. -/
theorem isWord_of_sameIgnoringCase
    (h : Text.sameIgnoringCase (String.ofList scheme) "basic" = true) : IsWord scheme := by
  have hfolded : scheme.map Char.toLower = ['b', 'a', 's', 'i', 'c'] := by
    simpa [Text.folded] using Text.sameIgnoringCase_iff.1 h
  constructor
  · rintro rfl
    cases hfolded
  · intro c hc
    have hmem : c.toLower ∈ ['b', 'a', 's', 'i', 'c'] := hfolded ▸ List.mem_map_of_mem hc
    by_cases hupper : c.val ≥ 'A'.val ∧ c.val ≤ 'Z'.val
    · have hlow : 0x41 ≤ c.toNat := hupper.1
      have hhigh : c.toNat ≤ 0x5A := hupper.2
      omega
    · have hsmall : ∀ d ∈ ['b', 'a', 's', 'i', 'c'], 0x20 < d.toNat ∧ d.toNat < 0x7F := by simp
      have hsame : c.toLower = c := dif_neg hupper
      rw [hsame] at hmem
      exact hsmall c hmem

/-- What is read from a line with a space behind its scheme. -/
theorem readBasic?_headerLine (hlead : IsPadding lead) (hscheme : IsWord scheme)
    (hgap : IsPadding gap) (htoken : IsWord token) (htrail : IsPadding trail) :
    readBasic? (lineBytes (headerLine lead scheme ' ' gap token trail))
      = if Text.sameIgnoringCase (String.ofList scheme) "basic" then readToken? token
        else none := by
  have hspace : ' ' ∉ scheme := fun h ↦ Nat.lt_irrefl _ (hscheme.2 _ h).1
  have htrim : Text.trim (gap ++ token) = token := by
    have hnone : Text.AreBlank [] := nofun
    simpa using Text.trim_append hgap.areBlank htoken.isTight hnone
  rw [readBasic?_eq, readValue?_headerLine hlead hscheme (by decide) hgap htoken htrail,
    Option.bind_some, trim_headerLine hlead hscheme htoken htrail, splitFirst_append hspace,
    Option.bind_some, htrim]

/-- Nothing is read from a line with a tab behind its scheme. -/
theorem readBasic?_headerLine_tab (hlead : IsPadding lead) (hscheme : IsWord scheme)
    (hgap : IsPadding gap) (htoken : IsWord token) (htrail : IsPadding trail) :
    readBasic? (lineBytes (headerLine lead scheme '\t' gap token trail))
      = none := by
  have hspace : ' ' ∉ scheme := fun h ↦ Nat.lt_irrefl _ (hscheme.2 _ h).1
  rw [readBasic?_eq, readValue?_headerLine hlead hscheme (by decide) hgap htoken htrail,
    Option.bind_some, trim_headerLine hlead hscheme htoken htrail,
    splitFirst_append_of_not_mem hspace]
  cases hsplit : splitFirst ' ' ('\t' :: (gap ++ token)) with
  | none => rfl
  | some parts =>
    have htab : '\t' ∈ parts.1 := by
      rw [splitFirst, if_neg (by decide)] at hsplit
      obtain ⟨r, -, rfl⟩ := Option.map_eq_some_iff.1 hsplit
      exact .head _
    rw [Option.map_some, Option.bind_some, if_neg]
    intro hbasic
    have hword := (isWord_of_sameIgnoringCase hbasic).2 '\t' (List.mem_append_right _ htab)
    exact absurd hword.1 (by decide)

end

/-- A header value that presents a token: the scheme `Basic` in any case of letters, a space, the
token, and white space around them. -/
def Presents (value : List UInt8) (token : List Char) : Prop :=
  ∃ lead scheme gap trail, IsPadding lead ∧ IsPadding gap ∧ IsPadding trail ∧
    Text.sameIgnoringCase (String.ofList scheme) "basic" = true ∧
    value = lineBytes (headerLine lead scheme ' ' gap token trail)

theorem Presents.of_mem {value : List UInt8} {username password : String}
    (h : Presents value (pairToken username password)) {b : UInt8} (hb : b ∈ value) :
    b = 0x09 ∨ 0x20 ≤ b.toNat ∧ b.toNat < 0x7F := by
  obtain ⟨lead, scheme, gap, trail, hlead, hgap, htrail, hscheme, rfl⟩ := h
  exact of_mem_readValue? (readValue?_headerLine hlead (isWord_of_sameIgnoringCase hscheme)
    (by decide) hgap (isWord_pairToken username password) htrail) hb

theorem readBasic?_eq_some_iff {value : List UInt8} {username password : String} :
    readBasic? value = some (username, password)
      ↔ ':' ∉ username.toList ∧ Presents value (pairToken username password) := by
  constructor
  · intro h
    rw [readBasic?_eq, Option.bind_eq_some_iff] at h
    obtain ⟨line, hline, h⟩ := h
    rw [Option.bind_eq_some_iff] at h
    obtain ⟨⟨scheme, rest⟩, hsplit, h⟩ := h
    split at h
    next hscheme =>
      obtain ⟨hcolon, htoken⟩ := readToken?_eq_some_iff.1 h
      obtain ⟨hread, rfl⟩ := readValue?_eq_some_iff.1 hline
      obtain ⟨lead, trail, hlead, htrail, hparts⟩ := Text.exists_trim line
      obtain ⟨gap, last, hgap, hlast, hrest⟩ := Text.exists_trim rest
      obtain ⟨-, hline'⟩ := of_splitFirst hsplit
      have hwhole : line = headerLine lead scheme ' ' gap (pairToken username password)
          (last ++ trail) := by
        calc line = lead ++ (scheme ++ ' ' :: rest) ++ trail := by rw [← hline', ← hparts]
          _ = lead ++ (scheme ++ ' ' :: (gap ++ Text.trim rest ++ last)) ++ trail := by rw [← hrest]
          _ = _ := by simp [headerLine, htoken]
      have hsub {cs : List Char} (hcs : cs ⊆ line) : IsReadable cs := fun c hc ↦ hread c (hcs hc)
      refine ⟨hcolon, lead, scheme, gap, last ++ trail, isPadding_of_areBlank hlead (hsub ?_),
        isPadding_of_areBlank hgap (hsub ?_),
        isPadding_of_areBlank (hlast.append htrail) (hsub ?_), hscheme, by rw [← hwhole]⟩
      all_goals
        rw [hwhole, headerLine]
        intro c hc
        simp [hc]
    next => cases h
  · rintro ⟨hcolon, lead, scheme, gap, trail, hlead, hgap, htrail, hscheme, rfl⟩
    rw [readBasic?_headerLine hlead (isWord_of_sameIgnoringCase hscheme) hgap
      (isWord_pairToken username password) htrail, if_pos hscheme]
    exact readToken?_eq_some_iff.2 ⟨hcolon, rfl⟩

/-! ## Verifying -/

namespace Credentials

variable {username password : String} {c : Credentials}

theorem ofPair?_eq_some_iff :
    ofPair? username password = some c
      ↔ username ≠ "" ∧ password ≠ "" ∧ c = ⟨username, Password.hash password⟩ := by
  rw [ofPair?]
  split
  next h =>
    simp only [Bool.or_eq_true, String.isEmpty_iff] at h
    rcases h with h | h <;> simp [h]
  next h =>
    simp only [Bool.or_eq_true, String.isEmpty_iff, not_or] at h
    simp [h, eq_comm]

/-- A header value verifies if a pair is read from it with the same user name and a password of
the same digest. -/
theorem verify_eq_true_iff (h : ofPair? username password = some c) {value : List UInt8} :
    c.verify value = true ↔ ∃ q, Password.digest q = Password.digest password ∧
      readBasic? value = some (username, q) := by
  obtain ⟨-, -, rfl⟩ := ofPair?_eq_some_iff.1 h
  rw [verify]
  cases readBasic? value with
  | none => simp
  | some pair =>
    obtain ⟨u, q⟩ := pair
    simp only [Bool.and_eq_true, Password.matchesText_iff, Password.hash_eq_hash_iff,
      Option.some.injEq, Prod.mk.injEq]
    constructor
    · rintro ⟨rfl, hdigest⟩
      exact ⟨q, hdigest, rfl, rfl⟩
    · rintro ⟨_, hdigest, rfl, rfl⟩
      exact ⟨rfl, hdigest⟩

theorem verify_iff_presents_pair (h : ofPair? username password = some c) {value : List UInt8} :
    c.verify value = true ↔ ':' ∉ username.toList ∧ ∃ q,
      Password.digest q = Password.digest password ∧ Presents value (pairToken username q) := by
  simp only [verify_eq_true_iff h, readBasic?_eq_some_iff]
  constructor
  · rintro ⟨q, hdigest, hcolon, hvalue⟩
    exact ⟨hcolon, q, hdigest, hvalue⟩
  · rintro ⟨hcolon, q, hdigest, hvalue⟩
    exact ⟨q, hdigest, hcolon, hvalue⟩

/-- **The configured pair.**  If the user name has no colon, every header value that presents the
pair verifies: with the scheme in any case of letters, and with any white space between it and the
token and at both ends.  The first colon of a pair ends its user name, so that no header value
verifies if the user name has a colon. -/
theorem configured_pair_verifies (h : ofPair? username password = some c) :
    (':' ∉ username.toList → ∀ lead scheme gap trail, IsPadding lead → IsPadding gap →
      IsPadding trail → Text.sameIgnoringCase (String.ofList scheme) "basic" = true →
      c.verify (lineBytes (headerLine lead scheme ' ' gap
        (Text.Base64.encode (Text.Utf8.encode (username ++ ":" ++ password))) trail)) = true) ∧
    (':' ∈ username.toList → ∀ value, c.verify value = false) := by
  constructor
  · intro hcolon lead scheme gap trail hlead hgap htrail hscheme
    exact (verify_iff_presents_pair h).2 ⟨hcolon, password, rfl, lead, scheme, gap, trail, hlead,
      hgap, htrail, hscheme, rfl⟩
  · intro hcolon value
    rw [Bool.eq_false_iff]
    intro hverify
    exact ((verify_iff_presents_pair h).1 hverify).1 hcolon

/-- A password with colons, and white space of both kinds. -/
theorem configured_pair_verifies_padded :
    ofPair? "brainiac" "s3cret:with:colons"
        = some ⟨"brainiac", Password.hash "s3cret:with:colons"⟩ ∧
      ':' ∉ "brainiac".toList ∧
      verify ⟨"brainiac", Password.hash "s3cret:with:colons"⟩
        (Text.Utf8.encode " bAsIc \t YnJhaW5pYWM6czNjcmV0OndpdGg6Y29sb25z  ") = true := by
  have h : ofPair? "brainiac" "s3cret:with:colons"
      = some ⟨"brainiac", Password.hash "s3cret:with:colons"⟩ := rfl
  have hcolon : ':' ∉ "brainiac".toList := by decide
  have hline := (configured_pair_verifies h).1 hcolon [' '] "bAsIc".toList ['\t', ' '] [' ', ' ']
    (by decide) (by decide) (by decide) (by decide)
  exact ⟨h, hcolon, hline⟩

/-- The user name `a:b` is taken for `a`, so that the pair that was configured does not verify. -/
theorem colon_in_username_locks_out :
    ∃ c, ofPair? "a:b" "c" = some c ∧
      Text.Base64.encode (Text.Utf8.encode ("a:b" ++ ":" ++ "c")) = "YTpiOmM=".toList ∧
      c.verify (Text.Utf8.encode "Basic YTpiOmM=") = false := by
  have hread : readBasic? (Text.Utf8.encode "Basic YTpiOmM=") = some ("a", "b:c") := by decide
  have hname : Password.matchesText "a" "a:b" = false := by decide
  refine ⟨⟨"a:b", Password.hash "c"⟩, rfl, by decide, ?_⟩
  rw [verify, hread]
  simp only [hname, Bool.false_and]

/-- **What verifies.**  A header value verifies exactly if its bytes are visible ASCII, spaces and
tabs and it presents the user name, which has no colon, with a password of the same digest: the
scheme in any case of letters, a space and perhaps more white space, and the Base64 text of the
pair, between white space.  So of two words with a blank between them the first has to be the
scheme, the blank a space, and the second the Base64 text of such a pair; a pair with another user
name or a password of another digest does not verify; and comparing what is kept of two passwords
is comparing their digests. -/
theorem verify_iff_presents (h : ofPair? username password = some c) :
    (∀ value, c.verify value = true ↔
      (∀ b ∈ value, b = 0x09 ∨ 0x20 ≤ b.toNat ∧ b.toNat < 0x7F) ∧ ':' ∉ username.toList ∧
      ∃ q, Password.digest q = Password.digest password ∧
        Presents value (Text.Base64.encode (Text.Utf8.encode (username ++ ":" ++ q)))) ∧
    (∀ lead scheme blank gap token trail, IsPadding lead → IsWord scheme → IsPadding [blank] →
      IsPadding gap → IsWord token → IsPadding trail →
      (c.verify (lineBytes (headerLine lead scheme blank gap token trail)) = true ↔
        blank = ' ' ∧ Text.sameIgnoringCase (String.ofList scheme) "basic" = true ∧
        ':' ∉ username.toList ∧ ∃ q, Password.digest q = Password.digest password ∧
          token = Text.Base64.encode (Text.Utf8.encode (username ++ ":" ++ q)))) ∧
    (∀ user q value, ':' ∉ user.toList →
      Presents value (Text.Base64.encode (Text.Utf8.encode (user ++ ":" ++ q))) →
      (c.verify value = true ↔
        user = username ∧ Password.digest q = Password.digest password)) ∧
    ∀ p q, Password.matchesText (Password.hash p) (Password.hash q) = true ↔
      Password.digest p = Password.digest q := by
  refine ⟨fun value ↦ ?_, ?_, ?_, ?_⟩
  · rw [verify_iff_presents_pair h]
    constructor
    · rintro ⟨hcolon, q, hdigest, hvalue⟩
      exact ⟨fun b hb ↦ hvalue.of_mem hb, hcolon, q, hdigest, hvalue⟩
    · rintro ⟨-, hpair⟩
      exact hpair
  · intro lead scheme blank gap token trail hlead hscheme hblank hgap htoken htrail
    rw [verify_eq_true_iff h]
    rcases hblank blank (.head _) with rfl | rfl
    · rw [readBasic?_headerLine hlead hscheme hgap htoken htrail]
      split
      next hbasic =>
        simp only [readToken?_eq_some_iff, hbasic, true_and]
        constructor
        · rintro ⟨q, hdigest, hcolon, htoken⟩
          exact ⟨hcolon, q, hdigest, htoken⟩
        · rintro ⟨hcolon, q, hdigest, htoken⟩
          exact ⟨q, hdigest, hcolon, htoken⟩
      next hbasic => simp [hbasic]
    · rw [readBasic?_headerLine_tab hlead hscheme hgap htoken htrail]
      simp
  · intro user q value hcolon hvalue
    rw [verify_eq_true_iff h, readBasic?_eq_some_iff.2 ⟨hcolon, hvalue⟩]
    constructor
    · rintro ⟨_, hdigest, heq⟩
      cases heq
      exact ⟨rfl, hdigest⟩
    · rintro ⟨rfl, hdigest⟩
      exact ⟨q, hdigest, rfl⟩
  · intro p q
    rw [Password.matchesText_iff, Password.hash_eq_hash_iff]

/-- The pair `u` and `p` verifies behind a tab that follows the space, but not behind one in its
place. -/
theorem verify_iff_presents_blanks :
    ofPair? "u" "p" = some ⟨"u", Password.hash "p"⟩ ∧
      verify ⟨"u", Password.hash "p"⟩ (Text.Utf8.encode "\tBASIC \tdTpw ") = true ∧
      verify ⟨"u", Password.hash "p"⟩ (Text.Utf8.encode "BASIC\t dTpw") = false := by
  have h : ofPair? "u" "p" = some ⟨"u", Password.hash "p"⟩ := rfl
  have hcolon : ':' ∉ "u".toList := by decide
  have hbasic : Text.sameIgnoringCase (String.ofList "BASIC".toList) "basic" = true := by decide
  have hvalue : Presents (Text.Utf8.encode "\tBASIC \tdTpw ") (pairToken "u" "p") :=
    ⟨['\t'], "BASIC".toList, ['\t'], [' '], by decide, by decide, by decide, hbasic, by decide⟩
  obtain ⟨hverify, hwords, -, -⟩ := verify_iff_presents h
  refine ⟨h, (hverify _).2 ⟨fun b hb ↦ hvalue.of_mem hb, hcolon, "p", rfl, hvalue⟩, ?_⟩
  have hiff := hwords [] "BASIC".toList '\t' [' '] "dTpw".toList [] (by decide) (by decide)
    (by decide) (by decide) (by decide) (by decide)
  rw [Bool.eq_false_iff]
  intro hline
  cases (hiff.1 hline).1

end Credentials

end RecordGateway.Http
