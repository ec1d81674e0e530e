import RecordGateway.Proofs.Json.Spelled
import RecordGateway.Proofs.Record.Decoding
import RecordGateway.Proofs.Record.Reading

/-!
# Reading nothing else

Bytes from which a document is read are one of the ways to write it.  Together with reading what was
written this says which bytes decoding finds no fault in: those in which a document is written, and
no others.
-/

namespace RecordGateway

namespace Document

open Json

variable {s r : List UInt8} {p : Gathered}

/-! ## Tokens -/

/-- A text that is read behind its opening quote, with blanks in front. -/
theorem exists_isText {t : String} {u : List UInt8} (hb : skipBlank s = byte '"' :: u)
    (h : Json.readText u = .ok (t, r)) :
    ∃ w q, s = w ++ (q ++ r) ∧ IsBlanks w ∧ IsText t q := by
  obtain ⟨w, hw, rfl⟩ := exists_blanks_of_skipBlank hb
  obtain ⟨v, rfl, hv⟩ := Json.of_readText h
  exact ⟨w, _, by simp, hw, .mk hv⟩

theorem of_readText {t : String} (h : readText s = .ok (t, r)) :
    ∃ w q, s = w ++ (q ++ r) ∧ IsBlanks w ∧ IsText t q := by
  unfold readText at h
  split at h
  · cases h
  next hb =>
    split at h
    next hquote => exact exists_isText (hquote ▸ hb) h
    next => cases h

theorem of_readKey {k : String} (h : readKey s = .ok (k, r)) :
    ∃ w q, s = w ++ (q ++ r) ∧ IsBlanks w ∧ IsText k q := by
  unfold readKey at h
  split at h
  · cases h
  next hb =>
    split at h
    next hquote => exact exists_isText (hquote ▸ hb) h
    next => cases h

theorem of_readColon (h : readColon s = .ok r) : ∃ w, s = w ++ byte ':' :: r ∧ IsBlanks w := by
  unfold readColon at h
  split at h
  · cases h
  next hb =>
    split at h
    next hcolon =>
      cases h
      subst hcolon
      obtain ⟨w, hw, rfl⟩ := exists_blanks_of_skipBlank hb
      exact ⟨w, rfl, hw⟩
    next => cases h

/-- No blanks are left where blanks were passed over. -/
theorem eq_nil_of_skipBlank {w t : List UInt8} (hw : IsBlanks w) (h : skipBlank s = w ++ t) :
    w = [] := by
  cases w with
  | nil => rfl
  | cons b w =>
    have hb := List.head?_dropWhile_not isBlank s
    rw [← skipBlank, h] at hb
    have hb' := hw b (.head _)
    rw [show isBlank b = false from hb] at hb'
    cases hb'

/-- What is read as it is written is a value. -/
theorem of_readRaw {v : String} (h : readRaw s = .ok (v, r)) :
    ∃ w, s = w ++ (Text.Utf8.encode v ++ r) ∧ IsBlanks w ∧ IsValue (Text.Utf8.encode v) := by
  unfold readRaw at h
  split at h
  · cases h
  next hskip =>
    split at h
    · cases h
    next hdecode =>
      cases h
      obtain ⟨w, hw, hs⟩ := exists_blanks s
      obtain ⟨w', t, ht, hw', hvalue⟩ := of_skipValue hskip
      rw [List.append_assoc] at ht
      obtain rfl := eq_nil_of_skipBlank hw' ht
      rw [List.nil_append] at ht
      rw [ht, List.length_append, Nat.add_sub_cancel, List.take_left,
        Text.Utf8.decode_eq_some_iff] at hdecode
      subst hdecode
      exact ⟨w, by rw [← ht, ← hs], hw, hvalue⟩

/-! ## Keys -/

/-- What stands before a key: blanks, and a comma among them unless the key is the first. -/
inductive IsLead : Bool → List UInt8 → Prop
  | first {w} (hw : IsBlanks w) : IsLead true w
  | next {w w'} (hw : IsBlanks w) (hw' : IsBlanks w') : IsLead false (w ++ byte ',' :: w')

/-- An object from where a key may come. -/
def IsObjectFrom {α : Type} (first : Bool) (Member : α → List UInt8 → Prop) (as : List α)
    (s : List UInt8) : Prop :=
  if first then IsObject Member as s else IsObjectTail Member as s

section IsObjectFrom

variable {α : Type} {Member : α → List UInt8 → Prop} {a : α} {as : List α} {w l m t : List UInt8}

theorem IsObjectFrom.close (first : Bool) (hw : IsBlanks w) :
    IsObjectFrom first Member [] (w ++ [byte '}']) := by
  cases first with
  | true => exact IsObject.empty hw
  | false => exact IsObjectTail.close hw

theorem IsObjectFrom.member {first : Bool} (hl : IsLead first l) (hm : Member a m)
    (ht : IsObjectFrom false Member as t) :
    IsObjectFrom first Member (a :: as) (l ++ m ++ t) := by
  cases hl with
  | first hw => exact IsObject.filled hw hm ht
  | next hw hw' => exact IsObjectTail.comma hw hw' hm ht

end IsObjectFrom

theorem of_readNextKey_none {first : Bool} (h : readNextKey first s = .ok (none, r)) :
    ∃ w, s = w ++ byte '}' :: r ∧ IsBlanks w := by
  unfold readNextKey at h
  split at h
  · cases h
  next hb =>
    split at h
    next hclose =>
      cases h
      subst hclose
      obtain ⟨w, hw, rfl⟩ := exists_blanks_of_skipBlank hb
      exact ⟨w, rfl, hw⟩
    next =>
      split at h
      · split at h <;> cases h
      split at h
      · split at h <;> cases h
      · cases h

theorem of_readNextKey_some {first : Bool} {k : String}
    (h : readNextKey first s = .ok (some k, r)) :
    ∃ l q, s = l ++ (q ++ r) ∧ IsLead first l ∧ IsText k q := by
  unfold readNextKey at h
  split at h
  · cases h
  next hb =>
    obtain ⟨w, hw, rfl⟩ := exists_blanks_of_skipBlank hb
    split at h
    · cases h
    split at h
    next hfirst =>
      subst hfirst
      split at h
      · cases h
      next hkey =>
        cases h
        obtain ⟨w', q, hq, hw', htext⟩ := of_readKey hkey
        exact ⟨w ++ w', q, by rw [hq, List.append_assoc], .first (hw.append hw'), htext⟩
    next hfirst =>
      obtain rfl := Bool.eq_false_iff.2 hfirst
      split at h
      next hcomma =>
        subst hcomma
        split at h
        · cases h
        next hkey =>
          cases h
          obtain ⟨w', q, rfl, hw', htext⟩ := of_readKey hkey
          exact ⟨w ++ byte ',' :: w', q, by simp, .next hw hw', htext⟩
      next => cases h

/-! ## Data -/

theorem of_readMembers {first : Bool} {done ms : List (String × String)}
    (h : readMembers first done s = .ok (ms, r)) :
    ∃ fields t, ms = done.reverse ++ fields ∧ s = t ++ r ∧ IsObjectFrom first IsField fields t := by
  fun_induction readMembers first done s with
  | case1 | case3 | case4 => cases h
  | case2 first done s _ hkey =>
    cases h
    obtain ⟨w, rfl, hw⟩ := of_readNextKey_none hkey
    exact ⟨[], _, by rw [List.append_nil], by simp, .close first hw⟩
  | case5 first done s k _ hkey _ hcolon v _ hraw ih =>
    obtain ⟨l, q, rfl, hl, hq⟩ := of_readNextKey_some hkey
    obtain ⟨w, rfl, hw⟩ := of_readColon hcolon
    obtain ⟨w', rfl, hw', hv⟩ := of_readRaw hraw
    obtain ⟨fields, t, rfl, rfl, ht⟩ := ih h
    exact ⟨(k, v) :: fields, _, by simp, by simp, .member hl (.mk (.mk hq hw hw') hv) ht⟩

theorem of_readData {fields : List (String × String)} (h : readData s = .ok (fields, r)) :
    ∃ w t, s = w ++ (t ++ r) ∧ IsBlanks w ∧ IsData fields t := by
  unfold readData at h
  split at h
  · cases h
  next hb =>
    split at h
    next hopen =>
      subst hopen
      obtain ⟨w, hw, rfl⟩ := exists_blanks_of_skipBlank hb
      obtain ⟨fields, t, rfl, rfl, ht⟩ := of_readMembers h
      exact ⟨w, byte '{' :: t, rfl, hw, .mk ht⟩
    next => cases h

/-! ## Members -/

/-- A member that does not come twice. -/
def Gathered.Admits (p : Gathered) : Member → Prop
  | .table _ => p.table? = none
  | .data _ => p.members? = none
  | .other _ => True

/-- What is known at the end fits, if each member came for the first time. -/
theorem Gathered.Admits.fits {m : Member} {ms : List Member} (h : p.Admits m)
    (hp : (p.add m).Fits ms) :
    p.Fits (m :: ms) ∧ (p.add m).document ms = p.document (m :: ms) := by
  obtain ⟨table?, members?⟩ := p
  cases m with
  | other k => exact ⟨hp, rfl⟩
  | table t =>
    cases h
    exact ⟨hp, rfl⟩
  | data fields =>
    cases h
    exact ⟨hp, rfl⟩

/-- What is read behind a key makes a member with it. -/
theorem of_readMember {k : String} {p' : Gathered} (h : readMember p k s = .ok (p', r)) :
    ∃ m t, s = t ++ r ∧ p' = p.add m ∧ p.Admits m ∧
      ∀ q, IsText k q → IsMember m (q ++ t) := by
  revert h
  fun_cases readMember p k s with
  | case1 | case2 | case3 | case5 | case6 | case7 | case9 | case10 =>
    intro h
    cases h
  | case4 hk hnone _ hcolon t _ htext =>
    rintro ⟨⟩
    subst hk
    obtain ⟨w, rfl, hw⟩ := of_readColon hcolon
    obtain ⟨w', t', rfl, hw', ht⟩ := of_readText htext
    refine ⟨.table t, w ++ byte ':' :: w' ++ t', by simp, rfl,
      Option.not_isSome_iff_eq_none.1 hnone, ?_⟩
    intro q hq
    have hmember : IsMember _ _ := .table (.mk hq hw hw') ht
    simpa only [List.append_assoc] using hmember
  | case8 _ hk hnone _ hcolon fields _ hdata =>
    rintro ⟨⟩
    subst hk
    obtain ⟨w, rfl, hw⟩ := of_readColon hcolon
    obtain ⟨w', t, rfl, hw', ht⟩ := of_readData hdata
    refine ⟨.data fields, w ++ byte ':' :: w' ++ t, by simp, rfl,
      Option.not_isSome_iff_eq_none.1 hnone, ?_⟩
    intro q hq
    have hmember : IsMember _ _ := .data (.mk hq hw hw') ht
    simpa only [List.append_assoc] using hmember
  | case11 htable hdata _ hcolon _ hvalue =>
    rintro ⟨⟩
    obtain ⟨w, rfl, hw⟩ := of_readColon hcolon
    obtain ⟨w', v, rfl, hw', hv⟩ := of_skipValue hvalue
    refine ⟨.other k, w ++ byte ':' :: w' ++ v, by simp, rfl, trivial, ?_⟩
    intro q hq
    have hmember : IsMember _ _ := .other htable hdata (.mk hq hw hw') hv
    simpa only [List.append_assoc] using hmember

theorem Gathered.fits_nil (p : Gathered) : p.Fits [] := by
  obtain ⟨_ | t, _ | fields⟩ := p <;> simp [Fits, allTables, allDatas, tables, datas]

theorem of_readObject {first : Bool} {d : Document} (h : readObject first p s = .ok (d, r)) :
    ∃ ms t, s = t ++ r ∧ IsObjectFrom first IsMember ms t ∧ p.Fits ms ∧ d = p.document ms := by
  fun_induction readObject first p s with
  | case1 | case3 => cases h
  | case2 first p s _ hkey =>
    cases h
    obtain ⟨w, rfl, hw⟩ := of_readNextKey_none hkey
    exact ⟨[], _, by simp, .close first hw, p.fits_nil, p.document_nil.symm⟩
  | case4 first p s k _ hkey _ _ hmember ih =>
    obtain ⟨l, q, rfl, hl, hq⟩ := of_readNextKey_some hkey
    obtain ⟨m, u, rfl, rfl, hadmits, hm⟩ := of_readMember hmember
    obtain ⟨ms, t, rfl, ht, hfits, rfl⟩ := ih h
    obtain ⟨hfits, hdocument⟩ := hadmits.fits hfits
    exact ⟨m :: ms, _, by simp, .member hl (hm q hq) ht, hfits, hdocument⟩

/-! ## Lists -/

theorem of_readListEnd (h : readListEnd s = .ok r) :
    ∃ w, s = w ++ byte ']' :: r ∧ IsBlanks w := by
  unfold readListEnd at h
  split at h
  · cases h
  next hb =>
    split at h
    next hclose =>
      cases h
      subst hclose
      obtain ⟨w, hw, rfl⟩ := exists_blanks_of_skipBlank hb
      exact ⟨w, rfl, hw⟩
    next => cases h

/-- What is read behind the table of a list makes a document with it. -/
theorem of_readListData {table : String} {d : Document}
    (h : readListData table s = .ok (d, r)) :
    ∃ t, s = t ++ r ∧
      ∀ w q, IsBlanks w → IsText table q → IsDocument d (byte '[' :: w ++ q ++ t) := by
  revert h
  fun_cases readListData table s with
  | case1 | case3 | case4 | case5 | case6 | case8 =>
    intro h
    cases h
  | case2 _ hclose =>
    rintro ⟨⟩
    obtain ⟨w₁, hw₁, rfl⟩ := exists_blanks_of_skipBlank hclose
    refine ⟨w₁ ++ [byte ']'], by simp, ?_⟩
    intro w q hw hq
    rw [← List.append_assoc]
    exact .table hw hq hw₁
  | case7 _ _ _ hb _ fields _ hdata _ hend hcomma =>
    rintro ⟨⟩
    obtain ⟨w₁, hw₁, rfl⟩ := exists_blanks_of_skipBlank hcomma
    obtain ⟨w₂, hw₂, rfl⟩ := exists_blanks_of_skipBlank hb
    obtain ⟨w₃, t, ht, hw₃, hfields⟩ := of_readData hdata
    obtain ⟨w', rfl, hw'⟩ := of_readListEnd hend
    refine ⟨w₁ ++ byte ',' :: (w₂ ++ w₃) ++ t ++ w' ++ [byte ']'], ?_, ?_⟩
    · rw [ht]
      simp
    · intro w q hw hq
      have hdocument : IsDocument _ _ := .both hw hq hw₁ (hw₂.append hw₃) hfields hw'
      simpa only [List.append_assoc, List.cons_append] using hdocument

theorem of_readList {d : Document} (h : readList s = .ok (d, r)) :
    ∃ t, s = t ++ r ∧ IsDocument d (byte '[' :: t) := by
  unfold readList at h
  split at h
  · cases h
  next hb =>
    obtain ⟨w, hw, rfl⟩ := exists_blanks_of_skipBlank hb
    split at h
    next hclose =>
      cases h
      subst hclose
      exact ⟨w ++ [byte ']'], by simp, .none hw⟩
    next =>
      split at h
      · cases h
      next htext =>
        obtain ⟨w', q, heq, hw', hq⟩ := of_readText htext
        obtain ⟨t, rfl, hdocument⟩ := of_readListData h
        refine ⟨w ++ w' ++ q ++ t, ?_, hdocument _ q (hw.append hw') hq⟩
        rw [heq]
        simp

/-! ## Documents -/

theorem of_readPrefix {d : Document} (h : readPrefix s = .ok (d, r)) :
    ∃ w t, s = w ++ t ++ r ∧ IsBlanks w ∧ IsDocument d t := by
  unfold readPrefix at h
  split at h
  · cases h
  next hb =>
    obtain ⟨w, hw, rfl⟩ := exists_blanks_of_skipBlank hb
    split at h
    next hopen =>
      subst hopen
      obtain ⟨ms, t, rfl, ht, ⟨htables, hdatas⟩, rfl⟩ := of_readObject h
      exact ⟨w, byte '{' :: t, by simp, hw, .object ht htables hdatas⟩
    split at h
    next hopen =>
      subst hopen
      obtain ⟨t, rfl, ht⟩ := of_readList h
      exact ⟨w, byte '[' :: t, by simp, hw, ht⟩
    next => cases h

/-- A document is read from nothing but a way to write it. -/
theorem written_of_read {d : Document} (h : read s = .ok d) : d.Written s := by
  unfold read at h
  split at h
  · cases h
  next r hprefix =>
    split at h
    next hend =>
      cases h
      obtain ⟨w, t, rfl, hw, ht⟩ := of_readPrefix hprefix
      obtain ⟨w', hw', hr⟩ := exists_blanks r
      rw [List.isEmpty_iff.1 hend, List.append_nil] at hr
      subst hr
      exact .mk hw ht hw'
    next => cases h

theorem read_eq_ok_iff {d : Document} : read s = .ok d ↔ d.Written s :=
  ⟨written_of_read, read_of_written⟩

end Document

namespace Record

variable {s : List UInt8} {visit : Document.Visit}

/-- Decoding finds fault with the bytes themselves if no document can be read from them. -/
theorem decode_eq_json_iff {f : Json.Fault} :
    decode s visit = .error (.json f) ↔ Document.read s = .error f := by
  cases h : Document.read s with
  | error e => simp [decode, h]
  | ok d =>
    rw [decode_of_read h]
    constructor
    · intro hd
      obtain ⟨k, raw, -, he⟩ := Document.toRecord_error hd
      cases he
    · intro hd
      cases hd

/-- **Decoding nothing else.**  A record, or the fault of one field, comes only from bytes in which
a document is written, in whatever order fields are gone through; all other bytes are no JSON of a
document. -/
theorem decode_written_only (s : List UInt8) (visit : Document.Visit) :
    (∀ r, decode s visit = .ok r → ∃ d, Document.Written d s ∧ d.Describes r) ∧
      (∀ k e, decode s visit = .error (.field k e) →
        ∃ d, Document.Written d s ∧ ∃ raw, d.Refuses k raw ∧ e = ⟨raw⟩) ∧
      ((∃ f, decode s visit = .error (.json f)) ↔ ¬∃ d, Document.Written d s) := by
  cases h : Document.read s with
  | error f =>
    rw [decode_eq_json_iff.2 h]
    refine ⟨?_, ?_, fun _ ↦ ?_, fun _ ↦ ⟨f, rfl⟩⟩
    · intro r hr
      cases hr
    · intro k e he
      cases he
    · rintro ⟨d, hd⟩
      rw [Document.read_eq_ok_iff.2 hd] at h
      cases h
  | ok d =>
    have hwritten := Document.read_eq_ok_iff.1 h
    rw [decode_of_read h]
    refine ⟨?_, ?_, ?_, ?_⟩
    · intro r hr
      exact ⟨d, hwritten, Document.toRecord_ok hr⟩
    · intro k e he
      obtain ⟨k', raw, hrefuses, heq⟩ := Document.toRecord_error he
      cases heq
      exact ⟨d, hwritten, raw, hrefuses, rfl⟩
    · rintro ⟨f, hf⟩
      obtain ⟨k, raw, -, heq⟩ := Document.toRecord_error hf
      cases heq
    · intro hnone
      exact absurd ⟨d, hwritten⟩ hnone

end Record

end RecordGateway
