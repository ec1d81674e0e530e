import RecordGateway.Database.Command
import RecordGateway.Proofs.Sql.Create
import RecordGateway.Proofs.Sql.Insert

/-!
# Reading statements back

What a database reads from the text of a statement that was made for a record.  A list is read
back as its items if none of them holds a comma or the bracket that ends the list, and names and
marks hold neither.
-/

namespace RecordGateway.Database

/-- The column that the declaration of a field is read back as. -/
def Column.ofField (f : String × Kind) : Column := ⟨f.1, Dialect.sqlite.typeText f.2, .null⟩

namespace Command

theorem after?_append (w rest : List Char) : after? w (w ++ rest) = some rest := by
  induction w with
  | nil => simp [after?]
  | cons c w ih => simp [after?, ih]

theorem upTo?_append {c : Char} {cs : List Char} (h : c ∉ cs) (rest : List Char) :
    upTo? c (cs ++ c :: rest) = some (cs, rest) := by
  induction cs with
  | nil => simp [upTo?]
  | cons d cs ih =>
    rw [List.mem_cons, not_or] at h
    rw [List.cons_append, upTo?, if_neg (Ne.symm h.1), ih h.2]
    rfl

/-! ## Lists -/

/-- A text that stands in a list as one item. -/
def IsItem (cs : List Char) : Prop := ',' ∉ cs ∧ ')' ∉ cs

theorem splitOn_items {xs : List (List Char)} (hne : xs ≠ []) (h : ∀ x ∈ xs, IsItem x) :
    (List.intercalate [','] xs).splitOn ',' = xs :=
  List.splitOn_intercalate ',' (fun x hx ↦ (h x hx).1) hne

/-- A list is read up to the bracket that ends it. -/
theorem upTo?_items {xs : List (List Char)} (h : ∀ x ∈ xs, IsItem x) (rest : List Char) :
    upTo? ')' (List.intercalate [','] xs ++ ')' :: rest)
      = some (List.intercalate [','] xs, rest) := by
  refine upTo?_append (fun hmem ↦ ?_) rest
  rcases Text.mem_intercalate hmem with hmem | ⟨x, hx, hmem⟩
  · revert hmem
    decide
  · exact (h x hx).2 hmem

theorem isItem_of_isAlphanum {cs : List Char} (h : ∀ c ∈ cs, c.isAlphanum = true) : IsItem cs := by
  constructor
  · intro hmem
    exact absurd (h _ hmem) (by decide)
  · intro hmem
    exact absurd (h _ hmem) (by decide)

/-! ## Names -/

/-- An identifier is read back as a name unless it is a reserved word. -/
theorem readName?_toList {s : String} (h : Identifier.isValid s = true) :
    readName? s.toList = if isReserved s.toList then none else some s := by
  obtain ⟨c, cs, hcs, hc⟩ := Identifier.exists_cons_of_isValid h
  have hall : (c :: cs).all Char.isAlphanum = true := by
    rw [← hcs, List.all_eq_true]
    exact fun _ ↦ Identifier.isAlphanum_of_mem h
  have hs : String.ofList (c :: cs) = s := by rw [← hcs, String.ofList_toList]
  rw [hcs, readName?]
  simp only [hc, hall, hs, Bool.true_and, Bool.not_eq_true']
  cases isReserved (c :: cs) <;> rfl

theorem mapM_readName? {names : List String} (h : ∀ s ∈ names, Identifier.isValid s = true) :
    (names.map String.toList).mapM readName?
      = if names.any fun s ↦ isReserved s.toList then none else some names := by
  induction names with
  | nil => rfl
  | cons s names ih =>
    rw [List.map_cons, List.mapM_cons, readName?_toList (h s (.head _)),
      ih fun e he ↦ h e (.tail _ he), List.any_cons]
    cases isReserved s.toList with
    | true => simp
    | false => cases names.any fun s ↦ isReserved s.toList <;> simp

/-! ## Values -/

theorem readOperand?_null : readOperand? "NULL".toList = some .null := by
  simp [readOperand?]

/-- A mark is read back as its number, unless that is too great. -/
theorem readOperand?_placeholder {n : Nat} (hpos : 0 < n) :
    readOperand? (Dialect.sqlite.placeholder n).toList
      = if n ≤ maxParameters then some (.parameter n) else none := by
  have hne : Nat.toDigits 10 n ≠ [] := Nat.toDigits_ne_nil
  have hdigits : (Nat.toDigits 10 n).all Char.isDigit = true := by
    rw [List.all_eq_true]
    exact fun c hc ↦ Nat.isDigit_of_mem_toDigits (by decide) (by decide) hc
  have hvalue : Decimal.ofDigits (Nat.toDigits 10 n) = n := Nat.ofDigitChars_ten_toDigits
  rw [Dialect.placeholder, String.toList_ofList, Nat.toString_eq_ofList_toDigits,
    String.toList_ofList]
  simp [Dialect.mark, readOperand?, hne, hdigits, hvalue, hpos]

theorem isItem_placeholder (n : Nat) : IsItem (Dialect.sqlite.placeholder n).toList := by
  have hdigits : ∀ c ∈ (toString n).toList, c.isAlphanum = true :=
    fun _ hc ↦ Rebind.isAlphanum_of_mem_toString hc
  obtain ⟨hcomma, hbracket⟩ := isItem_of_isAlphanum hdigits
  rw [Dialect.placeholder, String.toList_ofList]
  exact ⟨by simpa [Dialect.mark] using hcomma, by simpa [Dialect.mark] using hbracket⟩

/-! ## Declarations -/

/-- Spaces in front of a declaration do not count. -/
theorem readColumn?_space (cs : List Char) : readColumn? (' ' :: cs) = readColumn? cs := by
  simp [readColumn?]

theorem isBareConstraint_space (cs : List Char) :
    isBareConstraint (' ' :: cs) = isBareConstraint cs := by
  simp [isBareConstraint]

theorem readColumns?_of_some {cs : List Char} {c : Column} (h : readColumn? cs = some c)
    (rest : List (List Char)) :
    readColumns? (cs :: rest) = (readColumns? rest).map (c :: ·) := by
  rw [readColumns?, h]

theorem readColumns?_of_none {cs : List Char} (h : readColumn? cs = none)
    (rest : List (List Char)) :
    readColumns? (cs :: rest)
      = if (cs :: rest).all isBareConstraint then some [] else none := by
  rw [readColumns?, h]

theorem readColumns?_cons_space (cs : List Char) (rest : List (List Char)) :
    readColumns? ((' ' :: cs) :: rest) = readColumns? (cs :: rest) := by
  simp only [readColumns?, readColumn?_space, List.all_cons, isBareConstraint_space]
  rfl

theorem readColumns?_map_space (cs : List Char) (rest : List (List Char)) :
    readColumns? (cs :: rest.map (' ' :: ·)) = readColumns? (cs :: rest) := by
  induction rest generalizing cs with
  | nil => rfl
  | cons ds rest ih =>
    have hbare : (rest.map (' ' :: ·)).all isBareConstraint = rest.all isBareConstraint := by
      simp [List.all_map, Function.comp_def, isBareConstraint_space]
    have hrec : readColumns? ((' ' :: ds) :: rest.map (' ' :: ·)) = readColumns? (ds :: rest) := by
      rw [readColumns?_cons_space, ih]
    have hall : (cs :: (' ' :: ds) :: rest.map (' ' :: ·)).all isBareConstraint
        = (cs :: ds :: rest).all isBareConstraint := by
      rw [List.all_cons, List.all_cons, List.all_cons, List.all_cons, isBareConstraint_space, hbare]
    rw [List.map_cons]
    cases hcs : readColumn? cs with
    | some c => rw [readColumns?_of_some hcs, readColumns?_of_some hcs, hrec]
    | none => rw [readColumns?_of_none hcs, readColumns?_of_none hcs, hall]

/-- A name and one word for its type are read back as a column, unless the name is reserved. -/
theorem readColumn?_word {name : String} (h : Identifier.isValid name = true) {type : List Char}
    (hne : type ≠ []) (hspace : ' ' ∉ type) :
    readColumn? (name.toList ++ ' ' :: type)
      = if isReserved name.toList then none else some ⟨name, String.ofList type, .null⟩ := by
  have hname : ' ' ∉ name.toList := Identifier.not_mem_of_isValid h (by decide)
  have hword : ∀ c ∈ type, (c != ' ') = true := by
    rintro c hc
    rw [bne_iff_ne]
    rintro rfl
    exact hspace hc
  have htake : type.takeWhile (· != ' ') = type := List.takeWhile_eq_self_iff.2 hword
  have hrest : type.dropWhile (· != ' ') = [] := List.dropWhile_eq_nil_iff.2 hword
  rw [readColumn?, Identifier.dropWhile_space_append h]
  simp only [upTo?_append hname, Option.bind_eq_bind, Option.bind_some, readName?_toList h, htake,
    hrest]
  cases isReserved name.toList with
  | true => rfl
  | false => simp [readFilling?, hne]

theorem isBareConstraint_word {name : String} (h : Identifier.isValid name = true)
    {type : List Char} (hspace : ' ' ∉ type)
    (hbare : isBareConstraint (name.toList ++ ' ' :: type) = true) :
    Text.sameIgnoringCase name "constraint" = true := by
  have hname : ' ' ∉ name.toList := Identifier.not_mem_of_isValid h (by decide)
  have hwords : ∀ x ∈ [name.toList, type], ' ' ∉ x := by simpa using ⟨hname, hspace⟩
  have hsplit : (name.toList ++ ' ' :: type).splitOn ' ' = [name.toList, type] := by
    simpa using List.splitOn_intercalate ' ' hwords (List.cons_ne_nil _ _)
  rw [isBareConstraint, Identifier.dropWhile_space_append h, hsplit] at hbare
  simp only [String.ofList_toList, Bool.and_eq_true] at hbare
  exact hbare.1

/-- A word that begins a constraint cannot name a column. -/
theorem isReserved_of_constraint {name : String}
    (h : Text.sameIgnoringCase name "constraint" = true) : isReserved name.toList = true := by
  have hname : name.toList.map Char.toLower = Text.folded "constraint" :=
    Text.sameIgnoringCase_iff.1 h
  rw [isReserved, hname]
  decide

/-- The types of fields are single words. -/
theorem typeText_word : ∀ k ∈ [Kind.bool, .int, .float, .string],
    (Dialect.sqlite.typeText k).toList ≠ [] ∧ ' ' ∉ (Dialect.sqlite.typeText k).toList ∧
      ∀ c ∈ (Dialect.sqlite.typeText k).toList, c.isAlphanum = true := by
  simp [Dialect.typeText, Dialect.columnType]

/-- A record's fields are declared by names and types of fields. -/
def AreFields (fs : List (String × Kind)) : Prop :=
  ∀ f ∈ fs, Identifier.isValid f.1 = true ∧ f.2 ∈ [Kind.bool, .int, .float, .string]

theorem readColumn?_field {f : String × Kind} (hname : Identifier.isValid f.1 = true)
    (hkind : f.2 ∈ [Kind.bool, .int, .float, .string]) :
    readColumn? (Record.declaration .sqlite f).toList
      = if isReserved f.1.toList then none else some (.ofField f) := by
  obtain ⟨hne, hspace, -⟩ := typeText_word f.2 hkind
  rw [Record.toList_declaration, readColumn?_word hname hne hspace, String.ofList_toList]
  rfl

/-- The declarations of fields are read back as columns; only those at the end can be taken for
constraints that say nothing. -/
theorem readColumns?_fields {fs : List (String × Kind)} (hfs : AreFields fs)
    {columns : List Column}
    (h : readColumns? (fs.map fun f ↦ (Record.declaration .sqlite f).toList) = some columns) :
    columns
      = (fs.filter fun f ↦ !Text.sameIgnoringCase f.1 "constraint").map Column.ofField := by
  induction fs generalizing columns with
  | nil =>
    cases h
    rfl
  | cons f fs ih =>
    obtain ⟨hname, hkind⟩ := hfs f (.head _)
    have hcolumn := readColumn?_field hname hkind
    rw [List.map_cons] at h
    cases hres : isReserved f.1.toList with
    | false =>
      rw [hres, if_neg (by decide)] at hcolumn
      rw [readColumns?_of_some hcolumn, Option.map_eq_some_iff] at h
      obtain ⟨rest, hrest, rfl⟩ := h
      have hword : Text.sameIgnoringCase f.1 "constraint" = false := by
        rw [Bool.eq_false_iff]
        intro hword
        rw [isReserved_of_constraint hword] at hres
        cases hres
      rw [ih (fun e he ↦ hfs e (.tail _ he)) hrest]
      simp [hword]
    | true =>
      rw [hres, if_pos rfl] at hcolumn
      rw [readColumns?_of_none hcolumn, ← List.map_cons
        (f := fun f ↦ (Record.declaration .sqlite f).toList)] at h
      split at h
      next hbare =>
        cases h
        have hwords : ∀ e ∈ f :: fs, Text.sameIgnoringCase e.1 "constraint" = true := by
          intro e he
          obtain ⟨hename, hekind⟩ := hfs e he
          have hebare := List.all_eq_true.1 hbare _ (List.mem_map_of_mem he)
          rw [Record.toList_declaration] at hebare
          exact isBareConstraint_word hename (typeText_word e.2 hekind).2.1 hebare
        have hnone : (f :: fs).filter (fun f ↦ !Text.sameIgnoringCase f.1 "constraint") = [] := by
          rw [List.filter_eq_nil_iff]
          intro e he
          simp [hwords e he]
        rw [hnone, List.map_nil]
      next => cases h

/-- Fields whose names are not reserved are all read back as columns. -/
theorem readColumns?_fields_of_free {fs : List (String × Kind)} (hfs : AreFields fs)
    (hfree : ∀ f ∈ fs, isReserved f.1.toList = false) :
    readColumns? (fs.map fun f ↦ (Record.declaration .sqlite f).toList)
      = some (fs.map Column.ofField) := by
  induction fs with
  | nil => rfl
  | cons f fs ih =>
    obtain ⟨hname, hkind⟩ := hfs f (.head _)
    have hcolumn := readColumn?_field hname hkind
    rw [hfree f (.head _), if_neg (by decide)] at hcolumn
    rw [List.map_cons, readColumns?_of_some hcolumn,
      ih (fun e he ↦ hfs e (.tail _ he)) fun e he ↦ hfree e (.tail _ he)]
    rfl

/-! ## Names that are read -/

theorem isReserved_of_readName? {cs : List Char} {name : String} (h : readName? cs = some name) :
    isReserved name.toList = false := by
  unfold readName? at h
  split at h
  · cases h
  · split at h
    next hname =>
      cases h
      rw [Bool.and_eq_true, Bool.not_eq_true'] at hname
      rw [String.toList_ofList]
      exact hname.2
    · cases h

theorem isReserved_of_readColumn? {cs : List Char} {c : Column} (h : readColumn? cs = some c) :
    isReserved c.name.toList = false := by
  simp only [readColumn?, Option.bind_eq_bind, Option.bind_eq_some_iff] at h
  obtain ⟨_, -, name, hname, filling, -, h⟩ := h
  split at h
  · cases h
  · cases h
    exact isReserved_of_readName? hname

theorem isReserved_of_readColumns? {parts : List (List Char)} {columns : List Column}
    (h : readColumns? parts = some columns) : ∀ c ∈ columns, isReserved c.name.toList = false := by
  induction parts generalizing columns with
  | nil =>
    cases h
    exact fun _ hc ↦ by cases hc
  | cons cs parts ih =>
    cases hcs : readColumn? cs with
    | none =>
      rw [readColumns?_of_none hcs] at h
      split at h
      · cases h
        exact fun _ hc ↦ by cases hc
      · cases h
    | some d =>
      rw [readColumns?_of_some hcs, Option.map_eq_some_iff] at h
      obtain ⟨rest, hrest, rfl⟩ := h
      intro c hc
      rcases List.mem_cons.1 hc with rfl | hc
      · exact isReserved_of_readColumn? hcs
      · exact ih hrest c hc

/-- No column of a table is ever declared by a reserved word. -/
theorem isReserved_of_read? {sql name : String} {columns : List Column}
    (h : read? sql = some (.createTable name columns)) :
    ∀ c ∈ columns, isReserved c.name.toList = false := by
  rw [read?, Option.orElse_eq_orElse, Option.orElse_eq_or, Option.or_eq_some_iff] at h
  rcases h with h | ⟨-, h⟩
  · simp only [readCreate?, Option.bind_eq_bind, Option.bind_eq_some_iff] at h
    obtain ⟨_, -, _, -, _, -, _, -, columns', hcolumns, h⟩ := h
    split at h
    · cases h
      exact isReserved_of_readColumns? hcolumns
    · cases h
  · simp only [readInsert?, Option.bind_eq_bind, Option.bind_eq_some_iff] at h
    obtain ⟨_, -, _, -, _, -, _, -, _, -, _, -, _, -, _, -, h⟩ := h
    split at h <;> cases h

/-! ## Statements -/

/-- What is read from a statement that lists columns and values. -/
theorem read?_listingText {table : String} (htable : '"' ∉ table.toList) {cs vs : List String}
    (hcs : cs ≠ []) (hvs : vs ≠ []) (hcs' : ∀ c ∈ cs, IsItem c.toList)
    (hvs' : ∀ v ∈ vs, IsItem v.toList) :
    read? (Record.listingText table cs vs)
      = ((cs.map String.toList).mapM readName?).bind fun columns ↦
          ((vs.map String.toList).mapM readOperand?).map (.insertRow table columns ·) := by
  have hcolumns : ∀ x ∈ cs.map String.toList, IsItem x := by simpa using hcs'
  have hvalues : ∀ x ∈ vs.map String.toList, IsItem x := by simpa using hvs'
  have htext : (Record.listingText table cs vs).toList
      = "INSERT INTO \"".toList ++ (table.toList ++ '"' :: (" (".toList
          ++ (List.intercalate [','] (cs.map String.toList) ++ ')' :: (" VALUES (".toList
            ++ (List.intercalate [','] (vs.map String.toList) ++ ')' :: [';']))))) := by
    simp [Record.listingText_eq]
  have hcreate (rest : List Char) : readCreate? ("INSERT INTO \"".toList ++ rest) = none := by
    simp [readCreate?, after?]
  rw [read?, htext, hcreate, readInsert?]
  simp only [after?_append, upTo?_append htable, upTo?_items hcolumns, upTo?_items hvalues,
    splitOn_items (by simpa using hcs) hcolumns, splitOn_items (by simpa using hvs) hvalues,
    Option.bind_eq_bind, Option.bind_some, if_true, String.ofList_toList]
  cases (cs.map String.toList).mapM readName? with
  | none => rfl
  | some columns =>
    cases (vs.map String.toList).mapM readOperand? with
    | none => rfl
    | some values => rfl

/-- What is read from a statement that declares columns. -/
theorem read?_createText {table : String} (htable : '"' ∉ table.toList) {ds : List String}
    (hne : ds ≠ []) (hds : ∀ d ∈ ds, IsItem d.toList) :
    read? (Record.createText table ds)
      = (readColumns? (ds.map String.toList)).bind fun columns ↦
          if columns.isEmpty then none else some (.createTable table columns) := by
  obtain ⟨d, ds, rfl⟩ := List.exists_cons_of_ne_nil hne
  have hitems : ∀ x ∈ d.toList :: (ds.map String.toList).map (' ' :: ·), IsItem x := by
    intro x hx
    rcases List.mem_cons.1 hx with rfl | hx
    · exact hds d (.head _)
    · obtain ⟨y, hy, rfl⟩ := List.mem_map.1 hx
      obtain ⟨e, he, rfl⟩ := List.mem_map.1 hy
      have hitem := hds e (.tail _ he)
      exact ⟨by simpa using hitem.1, by simpa using hitem.2⟩
  have htext : (Record.createText table (d :: ds)).toList
      = "CREATE TABLE IF NOT EXISTS \"".toList ++ (table.toList ++ '"' :: (" (".toList
          ++ (List.intercalate [','] (d.toList :: (ds.map String.toList).map (' ' :: ·))
            ++ ')' :: [';']))) := by
    rw [← Text.intercalate_concat [','] ' ']
    simp [Record.createText_eq]
  have hinsert (rest : List Char) :
      readInsert? ("CREATE TABLE IF NOT EXISTS \"".toList ++ rest) = none := by
    simp [readInsert?, after?]
  rw [read?, htext, hinsert, readCreate?]
  simp only [after?_append, upTo?_append htable, upTo?_items hitems,
    splitOn_items (List.cons_ne_nil _ _) hitems, readColumns?_map_space, Option.bind_eq_bind,
    Option.bind_some, String.ofList_toList, List.map_cons]
  cases readColumns? (d.toList :: ds.map String.toList) with
  | none => rfl
  | some columns => cases columns <;> rfl

end Command

end RecordGateway.Database
