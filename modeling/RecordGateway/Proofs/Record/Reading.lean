import RecordGateway.Proofs.Json.Grammar
import RecordGateway.Proofs.Json.Spelling
import RecordGateway.Record.Document
import RecordGateway.Text.Encoding

/-!
# Reading what was written

Whatever way a document is written, it is read back as what it says.
-/

namespace RecordGateway.Document

/-! ## How documents are written

Which bytes say what a document says: an object with a text `table` and an object `data` among
other members of any kind, or the list of the two.  Keys and the table may be spelled in any way,
and blanks may stand between all tokens. -/

open Json (IsBlanks IsKey IsText IsValue IsObject byte)

/-- A member of `data`: its key, and its value as it is written. -/
inductive IsField : String × String → List UInt8 → Prop
  | mk {k v l} (hl : IsKey k l) (hv : IsValue (Text.Utf8.encode v)) :
      IsField (k, v) (l ++ Text.Utf8.encode v)

/-- The object `data`. -/
inductive IsData (fields : List (String × String)) : List UInt8 → Prop
  | mk {s} (hs : IsObject IsField fields s) : IsData fields (byte '{' :: s)

/-- What a member of a document says. -/
inductive Member
  | table (t : String)
  | data (fields : List (String × String))
  /-- Nothing, under another name. -/
  | other (k : String)

/-- A member of a document. -/
inductive IsMember : Member → List UInt8 → Prop
  | table {t l s} (hl : IsKey "table" l) (hs : IsText t s) : IsMember (.table t) (l ++ s)
  | data {fields l s} (hl : IsKey "data" l) (hs : IsData fields s) :
      IsMember (.data fields) (l ++ s)
  | other {k l v} (htable : k ≠ "table") (hdata : k ≠ "data") (hl : IsKey k l) (hv : IsValue v) :
      IsMember (.other k) (l ++ v)

/-- The tables that members name. -/
def tables : List Member → List String
  | [] => []
  | .table t :: ms => t :: tables ms
  | .data _ :: ms | .other _ :: ms => tables ms

/-- The data that members give. -/
def datas : List Member → List (List (String × String))
  | [] => []
  | .data fields :: ms => fields :: datas ms
  | .table _ :: ms | .other _ :: ms => datas ms

/-- The ways to write a document, without blanks around it. -/
inductive IsDocument : Document → List UInt8 → Prop
  | object {ms s} (hs : IsObject IsMember ms s) (htables : (tables ms).length ≤ 1)
      (hdatas : (datas ms).length ≤ 1) :
      IsDocument ⟨(tables ms).head?.getD "", (datas ms).head?.getD []⟩ (byte '{' :: s)
  | none {w} (hw : IsBlanks w) : IsDocument ⟨"", []⟩ (byte '[' :: w ++ [byte ']'])
  | table {t q w w'} (hw : IsBlanks w) (hq : IsText t q) (hw' : IsBlanks w') :
      IsDocument ⟨t, []⟩ (byte '[' :: w ++ q ++ w' ++ [byte ']'])
  | both {t fields q s w w₁ w₂ w'} (hw : IsBlanks w) (hq : IsText t q) (hw₁ : IsBlanks w₁)
      (hw₂ : IsBlanks w₂) (hs : IsData fields s) (hw' : IsBlanks w') :
      IsDocument ⟨t, fields⟩
        (byte '[' :: w ++ q ++ w₁ ++ byte ',' :: w₂ ++ s ++ w' ++ [byte ']'])

/-- The bytes say what the document says. -/
inductive Written (d : Document) : List UInt8 → Prop
  | mk {w s w'} (hw : IsBlanks w) (hs : IsDocument d s) (hw' : IsBlanks w') :
      Written d (w ++ s ++ w')

end RecordGateway.Document

namespace RecordGateway.Document

open Json

variable {s rest w : List UInt8}

/-! ## Tokens -/

/-- A text in quotes is found behind blanks, and read as what it spells. -/
theorem exists_of_isText {t : String} {q : List UInt8} (hw : IsBlanks w) (hq : IsText t q)
    (rest : List UInt8) :
    ∃ body, skipBlank (w ++ (q ++ rest)) = byte '"' :: body ∧
      Json.readText body = .ok (t, rest) := by
  obtain ⟨hs⟩ := hq
  refine ⟨_, ?_, Json.readText_append hs rest⟩
  simp only [List.append_assoc, List.cons_append, List.nil_append,
    skipBlank_append_cons hw isBlank_quote]

theorem readText_append {t : String} {q : List UInt8} (hw : IsBlanks w) (hq : IsText t q)
    (rest : List UInt8) : readText (w ++ (q ++ rest)) = .ok (t, rest) := by
  obtain ⟨body, hblank, hread⟩ := exists_of_isText hw hq rest
  simp only [readText, hblank, if_true, hread]

theorem readKey_append {k : String} {q : List UInt8} (hw : IsBlanks w) (hq : IsText k q)
    (rest : List UInt8) : readKey (w ++ (q ++ rest)) = .ok (k, rest) := by
  obtain ⟨body, hblank, hread⟩ := exists_of_isText hw hq rest
  simp only [readKey, hblank, if_true, hread]

theorem readColon_append (hw : IsBlanks w) (rest : List UInt8) :
    readColon (w ++ byte ':' :: rest) = .ok rest := by
  simp only [readColon, skipBlank_append_cons hw isBlank_colon,
    if_true]

/-- A value is read as it is written, with blanks in front. -/
theorem readRaw_append {v : String} (hw : IsBlanks w) (hv : IsValue (Text.Utf8.encode v))
    (hrest : Ends rest) : readRaw (w ++ (Text.Utf8.encode v ++ rest)) = .ok (v, rest) := by
  obtain ⟨b, t, hbt, hb⟩ := hv.exists_cons
  have hblank : skipBlank (w ++ (Text.Utf8.encode v ++ rest)) = Text.Utf8.encode v ++ rest := by
    rw [hbt, List.cons_append, skipBlank_append_cons hw hb.1]
  rw [readRaw, hblank, skipValue_append hv hrest]
  simp

theorem skipValue_blank_append {v : List UInt8} (hw : IsBlanks w) (hv : IsValue v)
    (hrest : Ends rest) : skipValue (w ++ (v ++ rest)) = .ok rest := by
  rw [skipValue, skipOpen_value_append hw]
  exact skipValue_append hv hrest

/-! ## Keys -/

/-- What reading a key leaves: its colon, and behind it blanks up to the value. -/
def LeavesKey (k : String) (value : List UInt8) (x : Except Fault (Option String × List UInt8)) :
    Prop :=
  ∃ r w, IsBlanks w ∧ x = .ok (some k, r) ∧ readColon r = .ok (w ++ value)

theorem readNextKey_first {k : String} {l : List UInt8} (hw : IsBlanks w) (hl : IsKey k l)
    (value : List UInt8) : LeavesKey k value (readNextKey true (w ++ (l ++ value))) := by
  obtain @⟨q, w₁, w₂, hq, hw₁, hw₂⟩ := hl
  refine ⟨_, _, hw₂, ?_, readColon_append hw₁ _⟩
  obtain ⟨body, hblank, hread⟩ := exists_of_isText hw hq (w₁ ++ byte ':' :: (w₂ ++ value))
  simp only [List.append_assoc, List.cons_append]
  simp only [readNextKey, hblank, if_neg (by decide : ¬byte '"' = byte '}'), if_true, readKey,
    skipBlank_cons isBlank_quote, hread]

theorem readNextKey_next {k : String} {w' l : List UInt8} (hw : IsBlanks w) (hw' : IsBlanks w')
    (hl : IsKey k l) (value : List UInt8) :
    LeavesKey k value (readNextKey false (w ++ byte ',' :: (w' ++ (l ++ value)))) := by
  obtain ⟨hq, hw₁, hw₂⟩ := hl
  refine ⟨_, _, hw₂, ?_, readColon_append hw₁ _⟩
  have hkey := readKey_append hw' hq
  simp only [List.append_assoc, List.cons_append] at hkey ⊢
  simp only [readNextKey, skipBlank_append_cons hw isBlank_comma,
    if_neg (by decide : ¬byte ',' = byte '}'), Bool.false_eq_true, if_false, if_true, hkey]

theorem readNextKey_close (first : Bool) (hw : IsBlanks w) (rest : List UInt8) :
    readNextKey first (w ++ byte '}' :: rest) = .ok (none, rest) := by
  simp only [readNextKey, skipBlank_append_cons hw isBlank_closeObject,
    if_true]

/-- What is left of an object goes on with no number. -/
theorem ends_of_tail {α : Type} {Member : α → List UInt8 → Prop} {as : List α}
    (ht : IsObjectTail Member as s) (rest : List UInt8) : Ends (s ++ rest) := by
  cases ht with
  | close hw =>
    rw [List.append_assoc]
    exact ends_append_cons hw (by decide) rest
  | comma hw =>
    simp only [List.append_assoc, List.cons_append]
    exact ends_append_cons hw (by decide) _

/-! ## Data -/

theorem readMembers_close {first : Bool} {done : List (String × String)} {r : List UInt8}
    (hk : readNextKey first s = .ok (none, r)) :
    readMembers first done s = .ok (done.reverse, r) := by
  rw [readMembers]
  split <;> simp_all

theorem readMembers_field {first : Bool} {done : List (String × String)} {k v : String}
    {r r₁ r₂ : List UInt8} (hk : readNextKey first s = .ok (some k, r))
    (hc : readColon r = .ok r₁) (hv : readRaw r₁ = .ok (v, r₂)) :
    readMembers first done s = readMembers false ((k, v) :: done) r₂ := by
  rw [readMembers]
  split
  next h => rw [hk] at h; cases h
  next h => rw [hk] at h; cases h
  next h =>
    rw [hk] at h
    cases h
    split
    next h => rw [hc] at h; cases h
    next h =>
      rw [hc] at h
      cases h
      split
      next h => rw [hv] at h; cases h
      next h => rw [hv] at h; cases h; rfl

theorem readMembers_of_leavesKey {first : Bool} {done : List (String × String)} {k v : String}
    (hk : LeavesKey k (Text.Utf8.encode v ++ rest) (readNextKey first s))
    (hv : IsValue (Text.Utf8.encode v)) (hrest : Ends rest) :
    readMembers first done s = readMembers false ((k, v) :: done) rest := by
  obtain ⟨r, w, hw, hk, hc⟩ := hk
  exact readMembers_field hk hc (readRaw_append hw hv hrest)

theorem readMembers_tail {fields : List (String × String)} (ht : IsObjectTail IsField fields s)
    (done : List (String × String)) (rest : List UInt8) :
    readMembers false done (s ++ rest) = .ok (done.reverse ++ fields, rest) := by
  induction ht generalizing done with
  | close hw =>
    rw [List.append_assoc, List.singleton_append,
      readMembers_close (readNextKey_close false hw rest), List.append_nil]
  | comma hw hw' hm ht ih =>
    obtain ⟨hl, hv⟩ := hm
    simp only [List.append_assoc, List.cons_append]
    rw [readMembers_of_leavesKey (readNextKey_next hw hw' hl _) hv (ends_of_tail ht rest), ih]
    simp

theorem readData_append {fields : List (String × String)} (hw : IsBlanks w)
    (hs : IsData fields s) (rest : List UInt8) :
    readData (w ++ (s ++ rest)) = .ok (fields, rest) := by
  obtain ⟨hs⟩ := hs
  rw [List.cons_append, readData,
    skipBlank_append_cons hw isBlank_openObject]
  simp only [if_true]
  cases hs with
  | empty hw =>
    rw [List.append_assoc, List.singleton_append,
      readMembers_close (readNextKey_close true hw rest)]
    rfl
  | filled hw hm ht =>
    obtain ⟨hl, hv⟩ := hm
    simp only [List.append_assoc]
    rw [readMembers_of_leavesKey (readNextKey_first hw hl _) hv (ends_of_tail ht rest),
      readMembers_tail ht]
    simp

/-! ## Members -/

/-- What is known behind another member. -/
def Gathered.add (p : Gathered) : Member → Gathered
  | .table t => { p with table? := some t }
  | .data fields => { p with members? := some fields }
  | .other _ => p

/-- The tables and the data that are known, and those that members still give. -/
def Gathered.allTables (p : Gathered) (ms : List Member) : List String :=
  p.table?.toList ++ tables ms

def Gathered.allDatas (p : Gathered) (ms : List Member) : List (List (String × String)) :=
  p.members?.toList ++ datas ms

/-- Neither the table nor the data comes twice. -/
def Gathered.Fits (p : Gathered) (ms : List Member) : Prop :=
  (p.allTables ms).length ≤ 1 ∧ (p.allDatas ms).length ≤ 1

theorem Gathered.Fits.add {p : Gathered} {m : Member} {ms : List Member}
    (h : p.Fits (m :: ms)) :
    (p.add m).Fits ms ∧ (p.add m).allTables ms = p.allTables (m :: ms) ∧
      (p.add m).allDatas ms = p.allDatas (m :: ms) := by
  obtain ⟨table?, members?⟩ := p
  obtain ⟨ht, hd⟩ := h
  cases m with
  | other k => exact ⟨⟨ht, hd⟩, rfl, rfl⟩
  | table t =>
    cases table? with
    | none => exact ⟨⟨ht, hd⟩, rfl, rfl⟩
    | some t' => simp [allTables, tables] at ht
  | data fields =>
    cases members? with
    | none => exact ⟨⟨ht, hd⟩, rfl, rfl⟩
    | some fields' => simp [allDatas, datas] at hd

/-- A member is read behind its key. -/
theorem IsMember.read {m : Member} (hm : IsMember m s) :
    ∃ k l value, s = l ++ value ∧ IsKey k l ∧
      ∀ p ms r w rest, Gathered.Fits p (m :: ms) → IsBlanks w → Ends rest →
        readColon r = .ok (w ++ (value ++ rest)) → readMember p k r = .ok (p.add m, rest) := by
  cases hm with
  | table hl hs =>
    refine ⟨_, _, _, rfl, hl, fun p ms r w rest hp hw _ hc ↦ ?_⟩
    have hnone : p.table?.isSome = false := by
      obtain ⟨_ | t, members?⟩ := p
      · rfl
      · simp [Gathered.Fits, Gathered.allTables, tables] at hp
    rw [readMember, if_pos rfl]
    simp only [hnone, hc, readText_append hw hs]
    rfl
  | data hl hs =>
    refine ⟨_, _, _, rfl, hl, fun p ms r w rest hp hw _ hc ↦ ?_⟩
    have hnone : p.members?.isSome = false := by
      obtain ⟨table?, _ | fields⟩ := p
      · rfl
      · simp [Gathered.Fits, Gathered.allDatas, datas] at hp
    rw [readMember, if_neg (by decide), if_pos rfl]
    simp only [hnone, hc, readData_append hw hs]
    rfl
  | other htable hdata hl hv =>
    refine ⟨_, _, _, rfl, hl, fun p ms r w rest _ hw hrest hc ↦ ?_⟩
    rw [readMember, if_neg htable, if_neg hdata]
    simp only [hc, skipValue_blank_append hw hv hrest]
    rfl

theorem readObject_close {first : Bool} {p : Gathered} {r : List UInt8}
    (hk : readNextKey first s = .ok (none, r)) : readObject first p s = .ok (p.finish, r) := by
  rw [readObject]
  split <;> simp_all

theorem readObject_member {first : Bool} {p p' : Gathered} {k : String} {r r' : List UInt8}
    (hk : readNextKey first s = .ok (some k, r)) (hm : readMember p k r = .ok (p', r')) :
    readObject first p s = readObject false p' r' := by
  rw [readObject]
  split
  next h => rw [hk] at h; cases h
  next h => rw [hk] at h; cases h
  next h =>
    rw [hk] at h
    cases h
    split
    next h => rw [hm] at h; cases h
    next h => rw [hm] at h; cases h; rfl

/-- The document that is known at the end, if it is known what members still give. -/
def Gathered.document (p : Gathered) (ms : List Member) : Document :=
  ⟨(p.allTables ms).head?.getD "", (p.allDatas ms).head?.getD []⟩

theorem Gathered.document_nil (p : Gathered) : p.document [] = p.finish := by
  obtain ⟨_ | t, _ | fields⟩ := p <;> rfl

theorem readObject_tail {ms : List Member} (ht : IsObjectTail IsMember ms s) {p : Gathered}
    (hp : p.Fits ms) (rest : List UInt8) :
    readObject false p (s ++ rest) = .ok (p.document ms, rest) := by
  induction ht generalizing p with
  | close hw =>
    rw [List.append_assoc, List.singleton_append,
      readObject_close (readNextKey_close false hw rest), p.document_nil]
  | comma hw hw' hm ht ih =>
    obtain ⟨k, l, value, rfl, hl, hread⟩ := hm.read
    obtain ⟨hp', htables, hdatas⟩ := hp.add
    simp only [List.append_assoc, List.cons_append]
    obtain ⟨r, w, hw'', hk, hc⟩ := readNextKey_next hw hw' hl (value ++ (_ ++ rest))
    rw [readObject_member hk (hread p _ r w _ hp hw'' (ends_of_tail ht rest) hc), ih hp',
      Gathered.document, Gathered.document, htables, hdatas]

theorem readObject_append {ms : List Member} (hs : IsObject IsMember ms s) {p : Gathered}
    (hp : p.Fits ms) (rest : List UInt8) :
    readObject true p (s ++ rest) = .ok (p.document ms, rest) := by
  cases hs with
  | empty hw =>
    rw [List.append_assoc, List.singleton_append,
      readObject_close (readNextKey_close true hw rest), p.document_nil]
  | filled hw hm ht =>
    obtain ⟨k, l, value, rfl, hl, hread⟩ := hm.read
    obtain ⟨hp', htables, hdatas⟩ := hp.add
    simp only [List.append_assoc]
    obtain ⟨r, w, hw', hk, hc⟩ := readNextKey_first hw hl (value ++ (_ ++ rest))
    rw [readObject_member hk (hread p _ r w _ hp hw' (ends_of_tail ht rest) hc),
      readObject_tail ht hp', Gathered.document, Gathered.document, htables, hdatas]

/-! ## Lists -/

theorem readListEnd_append (hw : IsBlanks w) (rest : List UInt8) :
    readListEnd (w ++ byte ']' :: rest) = .ok rest := by
  simp only [readListEnd, skipBlank_append_cons hw isBlank_closeList,
    if_true]

theorem readListData_close (table : String) (hw : IsBlanks w) (rest : List UInt8) :
    readListData table (w ++ byte ']' :: rest) = .ok (⟨table, []⟩, rest) := by
  simp only [readListData, skipBlank_append_cons hw isBlank_closeList,
    if_true]

theorem readListData_append {fields : List (String × String)} {w₁ w₂ : List UInt8}
    (table : String) (hw : IsBlanks w) (hw₁ : IsBlanks w₁) (hs : IsData fields s)
    (hw₂ : IsBlanks w₂) (rest : List UInt8) :
    readListData table (w ++ byte ',' :: (w₁ ++ (s ++ (w₂ ++ byte ']' :: rest))))
      = .ok (⟨table, fields⟩, rest) := by
  have hdata := readData_append isBlanks_nil hs (w₂ ++ byte ']' :: rest)
  obtain ⟨hs⟩ := hs
  rw [List.nil_append, List.cons_append] at hdata
  rw [List.cons_append]
  simp only [readListData, skipBlank_append_cons hw isBlank_comma,
    if_neg (by decide : ¬byte ',' = byte ']'), if_true,
    skipBlank_append_cons hw₁ isBlank_openObject,
    if_neg (by decide : ¬byte '{' = byte ']'), hdata, readListEnd_append hw₂]

theorem readList_close (hw : IsBlanks w) (rest : List UInt8) :
    readList (w ++ byte ']' :: rest) = .ok (⟨"", []⟩, rest) := by
  simp only [readList, skipBlank_append_cons hw isBlank_closeList,
    if_true]

theorem readList_append {t : String} {q : List UInt8} (hw : IsBlanks w) (hq : IsText t q)
    (rest : List UInt8) : readList (w ++ (q ++ rest)) = readListData t rest := by
  obtain ⟨body, hblank, hread⟩ := exists_of_isText hw hq rest
  simp only [readList, hblank, if_neg (by decide : ¬byte '"' = byte ']'), readText,
    skipBlank_cons isBlank_quote, if_true, hread]

/-! ## Documents -/

theorem readPrefix_append {d : Document} (hw : IsBlanks w) (hs : IsDocument d s)
    (rest : List UInt8) : readPrefix (w ++ (s ++ rest)) = .ok (d, rest) := by
  have hobject (t : List UInt8) :
      readPrefix (w ++ byte '{' :: t) = readObject true ⟨none, none⟩ t := by
    simp only [readPrefix, skipBlank_append_cons hw isBlank_openObject,
      if_true]
  have hlist (t : List UInt8) : readPrefix (w ++ byte '[' :: t) = readList t := by
    simp only [readPrefix, skipBlank_append_cons hw isBlank_openList,
      if_neg (by decide : ¬byte '[' = byte '{'), if_true]
  cases hs with
  | object hs htables hdatas =>
    rw [List.cons_append, hobject,
      readObject_append hs (p := ⟨none, none⟩) ⟨htables, hdatas⟩]
    rfl
  | none hw =>
    simp only [List.append_assoc, List.cons_append, List.nil_append]
    rw [hlist, readList_close hw]
  | table hw hq hw' =>
    simp only [List.append_assoc, List.cons_append, List.nil_append]
    rw [hlist, readList_append hw hq, readListData_close _ hw']
  | both hw hq hw₁ hw₂ hs hw' =>
    simp only [List.append_assoc, List.cons_append, List.nil_append]
    rw [hlist, readList_append hw hq, readListData_append _ hw₁ hw₂ hs hw']

/-- Whatever way a document is written, it is read back as what it says. -/
theorem read_of_written {d : Document} (h : Written d s) : read s = .ok d := by
  obtain ⟨hw, hs, hw'⟩ := h
  rw [List.append_assoc, read, readPrefix_append hw hs]
  have hend := skipBlank_append hw' []
  rw [List.append_nil] at hend
  simp only [hend]
  rfl

end RecordGateway.Document
