import Mathlib.Data.List.Nodup
import RecordGateway.Proofs.Record.Basic
import RecordGateway.Proofs.Sql.Rebind
import RecordGateway.Proofs.Text.Slices

/-!
# Columns and values stay in step

The statement that puts a record into its table lists its columns in some order and their values
by name in the same order.  With its values numbered, each value stands at the place of its own
column: `NULL` where the value is null, and otherwise the mark whose number is the rank of the
column among those that are not null, under which the value itself is passed.
-/

namespace RecordGateway.Record

variable (r : Record) (d : Dialect)

/-- Is the value of a column passed beside the text?  Null stands in the text itself. -/
def isPassed (c : String) : Bool := r.get? c != some .null

/-- How the value of a column stands in the text, `n` being its number if it is passed. -/
def operand (c : String) (n : Nat) : String := if r.isPassed c then d.placeholder n else "NULL"

/-- How the values of columns stand in the text behind `k` others that are passed: the number of
a value is the rank of its column among the columns whose values are passed. -/
def operands (k : Nat) (cs : List String) : List String :=
  cs.mapIdx fun i c ↦ r.operand d c (k + (cs.take (i + 1)).countP r.isPassed)

/-- The values of columns that are passed, in the order of the columns. -/
def passedValues (cs : List String) : List Value := (cs.filter r.isPassed).filterMap r.get?

variable {r d}

theorem operands_cons (k : Nat) (c : String) (cs : List String) :
    r.operands d k (c :: cs)
      = r.operand d c (k + [c].countP r.isPassed) :: r.operands d (k + [c].countP r.isPassed) cs :=
  Rebind.mapIdx_rank_cons r.isPassed (r.operand d) k c cs

theorem countP_cons_eq_add (c : String) (cs : List String) :
    (c :: cs).countP r.isPassed = [c].countP r.isPassed + cs.countP r.isPassed := by
  rw [← List.countP_append, List.singleton_append]

theorem passedValues_append (cs cs' : List String) :
    r.passedValues (cs ++ cs') = r.passedValues cs ++ r.passedValues cs' := by
  simp [passedValues]

/-- The columns of a listing are fields of the record, and their names can be read back whole. -/
def Lists (r : Record) (cs : List String) : Prop :=
  ∀ c ∈ cs, Identifier.isValid c = true ∧ ∃ v, r.get? c = some v

/-- One placeholder becomes how the value of its column stands in the text. -/
theorem scan_column {c : String} (hc : Identifier.isValid c = true) {v : Value}
    (hv : r.get? c = some v) {rest : List Char} (hrest : rest.head?.any Char.isAlphanum = false)
    (k : Nat) :
    Rebind.scan d r.fields .plain k (':' :: c.toList ++ rest)
      = Rebind.before (r.operand d c (k + [c].countP r.isPassed)).toList (r.passedValues [c])
          (Rebind.scan d r.fields .plain (k + [c].countP r.isPassed) rest) := by
  obtain ⟨a, as, hcs, ha⟩ := Identifier.exists_cons_of_isValid hc
  rw [Rebind.scan_placeholder_append (by simp [hcs, ha])
    (fun _ he ↦ Identifier.isAlphanum_of_mem hc he) hrest hv]
  by_cases hn : v = .null
  · subst hn
    simp [operand, passedValues, isPassed, hv]
  · simp [operand, passedValues, isPassed, hv, hn]

/-- A list of placeholders becomes the list of how the values stand in the text. -/
theorem scan_columns {cs : List String} (hcs : r.Lists cs) {rest : List Char}
    (hrest : rest.head?.any Char.isAlphanum = false) (k : Nat) :
    Rebind.scan d r.fields .plain k
        (List.intercalate [','] (cs.map fun c ↦ ':' :: c.toList) ++ rest)
      = Rebind.before (List.intercalate [','] ((r.operands d k cs).map String.toList))
          (r.passedValues cs)
          (Rebind.scan d r.fields .plain (k + cs.countP r.isPassed) rest) := by
  induction cs generalizing k with
  | nil => simp [operands, passedValues]
  | cons c cs ih =>
    obtain ⟨hc, v, hv⟩ := hcs c (.head _)
    cases cs with
    | nil =>
      rw [operands_cons]
      simpa [operands] using scan_column hc hv hrest k
    | cons c' cs =>
      have hcomma (k : Nat) (text : List Char) :
          Rebind.scan d r.fields .plain k ([','] ++ text)
            = Rebind.before [','] [] (Rebind.scan d r.fields .plain k text) :=
        Rebind.scan_plain_append (by simp [Rebind.IsPlain]) text
      have hrec := ih (fun e he ↦ hcs e (.tail _ he)) (k + [c].countP r.isPassed)
      have hvalues := passedValues_append (r := r) [c] (c' :: cs)
      rw [List.singleton_append] at hvalues
      rw [operands_cons, hvalues, countP_cons_eq_add c (c' :: cs), ← Nat.add_assoc]
      rw [operands_cons] at hrec ⊢
      simp only [List.map_cons, List.intercalate_cons_cons, List.append_assoc] at hrec ⊢
      rw [scan_column hc hv (by simp), hcomma, hrec]
      simp

/-- The text that puts values, given as they stand in it, into columns. -/
def listingText (table : String) (columns values : List String) : String :=
  "INSERT INTO \"" ++ table ++ "\" (" ++ String.intercalate "," columns ++ ") VALUES ("
    ++ String.intercalate "," values ++ ");"

theorem insertText_eq (table : String) (cs : List String) :
    insertText table cs = listingText table cs (cs.map (":" ++ ·)) := rfl

theorem listingText_eq (table : String) (columns values : List String) :
    listingText table columns values
      = "INSERT INTO \"" ++ table ++ "\" (" ++ String.intercalate "," columns ++ ") VALUES ("
        ++ String.intercalate "," values ++ ");" := rfl

theorem isPlain_of_mem_listing {cs : List String} (hcs : r.Lists cs) {a : Char}
    (ha : a ∈ List.intercalate [','] (cs.map String.toList)) : Rebind.IsPlain a := by
  rcases Text.mem_intercalate ha with h | ⟨x, hx, hax⟩
  · rw [List.mem_singleton.1 h]
    simp [Rebind.IsPlain]
  · obtain ⟨c, hc, rfl⟩ := List.mem_map.1 hx
    exact Rebind.isPlain_of_isAlphanum (Identifier.isAlphanum_of_mem (hcs c hc).1 hax)

/-- The scan of a whole statement that puts a record into its table. -/
theorem scan_insertText {table : String} (htable : Identifier.isValid table = true)
    {cs : List String} (hcs : r.Lists cs) :
    Rebind.scan d r.fields .plain 0 (insertText table cs).toList
      = .ok ((listingText table cs (r.operands d 0 cs)).toList, r.passedValues cs) := by
  have hquote : '"' ∉ table.toList := Identifier.not_mem_of_isValid htable (by decide)
  have hhead : ∀ c ∈ "INSERT INTO ".toList, Rebind.IsPlain c := by
    simp [Rebind.IsPlain]
  have hmiddle : ∀ c ∈ " (".toList ++ List.intercalate [','] (cs.map String.toList)
      ++ ") VALUES (".toList, Rebind.IsPlain c := by
    intro c hc
    rw [List.mem_append, List.mem_append] at hc
    rcases hc with (hc | hc) | hc
    · revert c
      simp [Rebind.IsPlain]
    · exact isPlain_of_mem_listing hcs hc
    · revert c
      simp [Rebind.IsPlain]
  have htail : ∀ c ∈ ");".toList, Rebind.IsPlain c := by
    simp [Rebind.IsPlain]
  have hrest : ");".toList.head?.any Char.isAlphanum = false := by
    simp
  have htext : (insertText table cs).toList
      = "INSERT INTO ".toList ++ ('"' :: table.toList ++ '"' ::
          (" (".toList ++ List.intercalate [','] (cs.map String.toList) ++ ") VALUES (".toList
            ++ (List.intercalate [','] (cs.map fun c ↦ ':' :: c.toList)
              ++ ");".toList))) := by
    simp [insertText_eq, listingText_eq, Function.comp_def]
  rw [htext, Rebind.scan_plain_append hhead, Rebind.scan_quoted_append (.inl rfl) hquote,
    Rebind.scan_plain_append hmiddle, scan_columns hcs hrest,
    Rebind.scan_plain htail]
  simp [listingText_eq]

/-! ## Marks and values -/

theorem mark_not_isAlphanum (d : Dialect) : d.mark.isAlphanum = false := by
  cases d <;> decide

/-- A mark has its character once, in front of the digits. -/
theorem count_mark_placeholder (n : Nat) : (d.placeholder n).toList.count d.mark = 1 := by
  have hdigits : d.mark ∉ (toString n).toList := by
    intro h
    have hmark := mark_not_isAlphanum d
    rw [Rebind.isAlphanum_of_mem_toString h] at hmark
    cases hmark
  rw [Dialect.placeholder, String.toList_ofList, List.count_cons_self,
    List.count_eq_zero.2 hdigits]

theorem count_mark_operand (c : String) (n : Nat) :
    (r.operand d c n).toList.count d.mark = [c].countP r.isPassed := by
  cases h : r.isPassed c with
  | true => simp [operand, h, count_mark_placeholder]
  | false => cases d <;> simp [operand, h, Dialect.mark]

/-- A text has as many marks for its values as columns are passed. -/
theorem count_mark_operands (k : Nat) (cs : List String) :
    (List.intercalate [','] ((r.operands d k cs).map String.toList)).count d.mark
      = cs.countP r.isPassed := by
  have hcomma : [','].count d.mark = 0 := by cases d <;> decide
  induction cs generalizing k with
  | nil => rfl
  | cons c cs ih =>
    rw [operands_cons, countP_cons_eq_add c cs]
    cases cs with
    | nil => simpa [operands] using count_mark_operand c _
    | cons c' cs =>
      have hrec := ih (k + [c].countP r.isPassed)
      rw [operands_cons] at hrec ⊢
      simp only [List.map_cons, List.intercalate_cons_cons, List.count_append] at hrec ⊢
      rw [hrec, count_mark_operand, hcomma, Nat.add_zero]

theorem map_some_passedValues {cs : List String} (hcs : r.Lists cs) :
    (r.passedValues cs).map some = (cs.filter r.isPassed).map r.get? := by
  induction cs with
  | nil => rfl
  | cons c cs ih =>
    obtain ⟨-, v, hv⟩ := hcs c (.head _)
    have hrec := ih fun e he ↦ hcs e (.tail _ he)
    rw [passedValues] at hrec ⊢
    by_cases h : r.isPassed c = true
    · simp [h, hv, hrec]
    · simp [h, hrec]

theorem length_passedValues {cs : List String} (hcs : r.Lists cs) :
    (r.passedValues cs).length = cs.countP r.isPassed := by
  have h := congrArg List.length (map_some_passedValues hcs)
  rwa [List.length_map, List.length_map, ← List.countP_eq_length_filter] at h

/-- The text of a listing has a mark for each value that is passed, and no other. -/
theorem count_mark_listingText {table : String} (htable : Identifier.isValid table = true)
    {cs : List String} (hcs : r.Lists cs) :
    (listingText table cs (r.operands d 0 cs)).toList.count d.mark
      = (r.passedValues cs).length := by
  have hplain : d.mark ∉ List.intercalate [','] (cs.map String.toList) := by
    intro h
    rcases Text.mem_intercalate h with h | ⟨x, hx, hmem⟩
    · revert h
      cases d <;> decide
    · obtain ⟨c, hc, rfl⟩ := List.mem_map.1 hx
      exact Identifier.not_mem_of_isValid (hcs c hc).1 (mark_not_isAlphanum d) hmem
  have hname := List.count_eq_zero.2 (Identifier.not_mem_of_isValid htable (mark_not_isAlphanum d))
  have hcolumns := List.count_eq_zero.2 hplain
  rw [length_passedValues hcs, ← count_mark_operands (r := r) (d := d) 0 cs]
  cases d <;> simp_all [listingText_eq, Dialect.mark]

/-! ## The statement with its values numbered -/

/-- A statement is made of a record exactly if it is valid, has a field, and no field of it is
named like a generated column. -/
theorem insertListing_eq_ok_iff {cs : List String} {s : NamedStatement} :
    r.insertListing cs = .ok s ↔ r.isValid = true ∧ r.isEmpty = false ∧
      (∀ c ∈ r.columns, isGenerated c = false) ∧ s = ⟨insertText r.table cs, r.fields⟩ := by
  rw [← checkGenerated_eq_ok_iff, insertListing]
  cases r.isValid with
  | false => simp
  | true =>
    cases r.isEmpty with
    | true => simp
    | false =>
      cases r.checkGenerated with
      | error e => simp
      | ok => simp [eq_comm]

theorem lists_of_perm (hvalid : r.isValid = true) {cs : List String} (hcs : cs.Perm r.columns) :
    r.Lists cs := by
  intro c hc
  have hmem := hcs.mem_iff.1 hc
  exact ⟨isValid_of_mem_columns hvalid hmem, mem_columns_iff.1 hmem⟩

theorem rebind_insertText {table : String} (htable : Identifier.isValid table = true)
    {cs : List String} (hcs : r.Lists cs) :
    NamedStatement.rebind ⟨insertText table cs, r.fields⟩ d
      = .ok ⟨listingText table cs (r.operands d 0 cs), r.passedValues cs⟩ := by
  rw [NamedStatement.rebind, scan_insertText htable hcs]
  simp

theorem operands_congr {r' : Record} {cs : List String}
    (h : ∀ c ∈ cs, r'.isPassed c = r.isPassed c) (k : Nat) :
    r'.operands d k cs = r.operands d k cs := by
  induction cs generalizing k with
  | nil => rfl
  | cons c cs ih =>
    have hc := h c (.head _)
    have hcount : [c].countP r'.isPassed = [c].countP r.isPassed := by simp [hc]
    rw [operands_cons, operands_cons, hcount, ih fun e he ↦ h e (.tail _ he), operand, operand, hc]

theorem passedValues_ne {cs : List String} (hvalid : r.isValid = true) {v : Value}
    (hv : v ∈ r.passedValues cs) : v ≠ .null ∧ v ≠ .invalid := by
  obtain ⟨c, hc, hget⟩ := List.mem_filterMap.1 hv
  refine ⟨?_, ((isValid_iff.1 hvalid).2 c v hget).2⟩
  rintro rfl
  have := (List.mem_filter.1 hc).2
  simp [isPassed, hget] at this

/-- **Columns and values stay in step.**  Whatever order the columns of a valid record are listed
in, its statement is made and its values are numbered: the text lists the columns, each once, and
in the same order `NULL` for a null value and for any other the mark with the rank of its column;
the values passed are those that are not null, in the order of the columns.  There are as many
marks as values, none of the values is null or unrecognised, and the text depends on no more of
the values than which of them are null. -/
theorem rebind_insertListing (hvalid : r.isValid = true) (hne : r.isEmpty = false)
    (hgen : ∀ c ∈ r.columns, isGenerated c = false) {cs : List String}
    (hcs : cs.Perm r.columns) (d : Dialect) :
    ∃ s n, r.insertListing cs = .ok s ∧ s.rebind d = .ok n ∧
      n.sql = listingText r.table cs (r.operands d 0 cs) ∧
      n.values.map some = (cs.filter r.isPassed).map r.get? ∧
      (∀ c ∈ r.columns, cs.count c = 1) ∧
      n.sql.toList.count d.mark = n.values.length ∧
      (∀ v ∈ n.values, v ≠ .null ∧ v ≠ .invalid) ∧
      ∀ r' : Record, r'.isValid = true → r'.table = r.table → r'.columns = r.columns →
        (∀ c ∈ cs, r'.isPassed c = r.isPassed c) →
        ∃ s' n', r'.insertListing cs = .ok s' ∧ s'.rebind d = .ok n' ∧ n'.sql = n.sql := by
  have htable := (isValid_iff.1 hvalid).1
  have hlists := lists_of_perm hvalid hcs
  refine ⟨_, _, insertListing_eq_ok_iff.2 ⟨hvalid, hne, hgen, rfl⟩, rebind_insertText htable hlists, rfl,
    map_some_passedValues hlists, ?_, count_mark_listingText htable hlists,
    fun v hv ↦ passedValues_ne hvalid hv, ?_⟩
  · intro c hc
    exact List.count_eq_one_of_mem (hcs.nodup_iff.2 r.columns_nodup) (hcs.mem_iff.2 hc)
  · intro r' hvalid' htable' hcolumns' hpassed
    have hne' : r'.isEmpty = false := by
      rw [Bool.eq_false_iff, Ne, isEmpty_iff, hcolumns', ← isEmpty_iff, hne]
      decide
    have hgen' : ∀ c ∈ r'.columns, isGenerated c = false := by rwa [hcolumns']
    have hlists' := lists_of_perm (r := r') hvalid' (hcolumns' ▸ hcs)
    refine ⟨_, _, insertListing_eq_ok_iff.2 ⟨hvalid', hne', hgen', rfl⟩,
      rebind_insertText (htable' ▸ htable) hlists', ?_⟩
    rw [operands_congr hpassed, htable']

/-- A record with names that begin each other, null between the others. -/
def reading : Record :=
  ⟨"t", ⟨[("a", .int 1), ("a1", .null), ("ab", .string "x")], by decide⟩⟩

/-- Columns in another order than their names, and a null value among them. -/
theorem rebind_reading :
    reading.isValid = true ∧ reading.isEmpty = false ∧
      (∀ c ∈ reading.columns, isGenerated c = false) ∧ ["ab", "a1", "a"].Perm reading.columns ∧
      ∃ s n, reading.insertListing ["ab", "a1", "a"] = .ok s ∧ s.rebind .postgres = .ok n ∧
        n.sql = "INSERT INTO \"t\" (ab,a1,a) VALUES ($1,NULL,$2);" ∧
        n.values = [.string "x", .int 1] := by
  have hvalid : reading.isValid = true := by decide
  have hne : reading.isEmpty = false := by decide
  have hgen : ∀ c ∈ reading.columns, isGenerated c = false := by decide
  have hperm : ["ab", "a1", "a"].Perm reading.columns := by decide
  obtain ⟨s, n, hs, hn, hsql, hvalues, -⟩ :=
    rebind_insertListing hvalid hne hgen hperm .postgres
  refine ⟨hvalid, hne, hgen, hperm, s, n, hs, hn, hsql.trans ?_, ?_⟩
  · have hoperands : reading.operands .postgres 0 ["ab", "a1", "a"] = ["$1", "NULL", "$2"] := by
      decide
    have htable : reading.table = "t" := rfl
    simp [hoperands, htable, listingText_eq]
  · exact List.map_injective_iff.2 (fun _ _ ↦ Option.some.inj) (hvalues.trans (by decide))

end RecordGateway.Record
