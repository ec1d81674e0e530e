import RecordGateway.Proofs.Record.Basic
import RecordGateway.Proofs.Sql.Create
import RecordGateway.Proofs.Sql.Insert
import RecordGateway.Proofs.Text.Slices

/-!
# The columns that a statement names

A statement says in quotes which table it is about and lists columns in brackets, each beginning
with the name of the column.  Commas and brackets inside the brackets of an item belong to the item.
What can be read off a statement like that is what the statement was made of.
-/

namespace RecordGateway.Listing

/-! ## Reading a list in brackets -/

/-- How many brackets are open behind a character. -/
def depthBehind (depth : Nat) (c : Char) : Nat :=
  if c = '(' then depth + 1 else if c = ')' then depth - 1 else depth

/-- Does a character divide items or end the list? -/
def isBorder (depth : Nat) (c : Char) : Bool := depth == 0 && (c == ',' || c == ')')

/-- A text put in front of the first item. -/
def before (text : List Char) : List (List Char) → List (List Char)
  | [] => []
  | item :: items => (text ++ item) :: items

/-- The items of a list up to the bracket that closes it, `depth` brackets being open in the
first of them. -/
def items? (depth : Nat) : List Char → Option (List (List Char))
  | [] => none
  | c :: cs =>
    if isBorder depth c then
      if c = ')' then some [[]] else (items? 0 cs).map ([] :: ·)
    else (items? (depthBehind depth c) cs).map (before [c])

/-- How many brackets are open behind a text in which no item ends. -/
def depthBehind? (depth : Nat) : List Char → Option Nat
  | [] => some depth
  | c :: cs => if isBorder depth c then none else depthBehind? (depthBehind depth c) cs

/-- A text that is a single item. -/
def IsItem (text : List Char) : Prop := depthBehind? 0 text = some 0

instance (text : List Char) : Decidable (IsItem text) := inferInstanceAs (Decidable (_ = _))

@[simp] theorem before_nil (items : List (List Char)) : before [] items = items := by
  cases items <;> rfl

theorem before_before (s t : List Char) (items : List (List Char)) :
    before s (before t items) = before (s ++ t) items := by
  cases items <;> simp [before]

theorem depthBehind?_append (depth : Nat) (s t : List Char) :
    depthBehind? depth (s ++ t) = (depthBehind? depth s).bind fun depth ↦ depthBehind? depth t := by
  induction s generalizing depth with
  | nil => rfl
  | cons c s ih =>
    simp only [List.cons_append, depthBehind?]
    split
    · rfl
    · rw [ih]

theorem IsItem.append {s t : List Char} (hs : IsItem s) (ht : IsItem t) : IsItem (s ++ t) := by
  rw [IsItem, depthBehind?_append, hs, Option.bind_some, ht]

theorem isItem_of_isAlphanum {text : List Char} (h : ∀ c ∈ text, c.isAlphanum = true) :
    IsItem text := by
  induction text with
  | nil => rfl
  | cons c text ih =>
    have hne {d : Char} (hd : d.isAlphanum = false) : c ≠ d := by
      rintro rfl
      rw [h c (.head _)] at hd
      cases hd
    have hopen : c ≠ '(' := hne (by decide)
    have hclose : c ≠ ')' := hne (by decide)
    have hborder : isBorder 0 c = false := by
      simp [isBorder, hclose, hne (by decide : ','.isAlphanum = false)]
    have hdepth : depthBehind 0 c = 0 := by rw [depthBehind, if_neg hopen, if_neg hclose]
    rw [IsItem, depthBehind?, hborder, if_neg (by decide), hdepth]
    exact ih fun e he ↦ h e (.tail _ he)

/-- A text in which no item ends belongs to the first item as a whole. -/
theorem items?_append {depth depth' : Nat} {text : List Char}
    (h : depthBehind? depth text = some depth') (rest : List Char) :
    items? depth (text ++ rest) = (items? depth' rest).map (before text) := by
  induction text generalizing depth with
  | nil =>
    cases h
    have hnil : before [] = id := funext before_nil
    rw [hnil, Option.map_id, List.nil_append, id]
  | cons c text ih =>
    rw [depthBehind?] at h
    split at h
    next => cases h
    next hborder =>
      rw [List.cons_append, items?, if_neg hborder, ih h, Option.map_map]
      congr 1
      funext items
      exact before_before [c] text items

/-- The items of a list are read back. -/
theorem items?_intercalate {xs : List (List Char)} (hne : xs ≠ []) (h : ∀ x ∈ xs, IsItem x)
    (rest : List Char) : items? 0 (List.intercalate [','] xs ++ ')' :: rest) = some xs := by
  induction xs with
  | nil => exact absurd rfl hne
  | cons x xs ih =>
    have hx := h x (.head _)
    cases xs with
    | nil =>
      rw [List.intercalate_singleton, items?_append hx, items?, if_pos (by decide), if_pos rfl]
      simp [before]
    | cons y ys =>
      have hrec := ih (List.cons_ne_nil _ _) fun z hz ↦ h z (.tail _ hz)
      rw [List.intercalate_cons_cons, List.append_assoc, List.append_assoc, items?_append hx,
        List.singleton_append, items?, if_pos (by decide), if_neg (by decide), hrec]
      simp [before]

/-! ## Reading a statement -/

/-- The name of the table that a statement is about. -/
def tableOf (text : String) : String :=
  String.ofList ((text.toList.dropWhile (· != '"')).tail.takeWhile (· != '"'))

/-- The items that a statement lists. -/
def itemsOf (text : String) : List (List Char) :=
  ((items? 0 (text.toList.dropWhile (· != '(')).tail).getD []).map (·.dropWhile (· == ' '))

/-- The kind of column that a type stands for. -/
def kindOf? (d : Dialect) (type : List Char) : Option Kind :=
  Kind.all.find? fun k ↦ (d.columnType k).toOption == some (String.ofList type)

/-- The columns that a statement lists, with the kinds that their types stand for. -/
def declaredOf (d : Dialect) (text : String) : List (String × Option Kind) :=
  (itemsOf text).map fun item ↦
    (String.ofList (item.takeWhile (· != ' ')), kindOf? d (item.dropWhile (· != ' ')).tail)

/-- The names of the columns that a statement lists. -/
def columnsOf (text : String) : List String :=
  (itemsOf text).map fun item ↦ String.ofList (item.takeWhile (· != ' '))

/-- A text is divided at the first place where a character stands. -/
theorem takeWhile_dropWhile_bne {c : Char} {pre : List Char} (h : c ∉ pre) (rest : List Char) :
    (pre ++ c :: rest).takeWhile (· != c) = pre ∧
      (pre ++ c :: rest).dropWhile (· != c) = c :: rest := by
  have hne := Rebind.bne_of_not_mem h
  rw [List.takeWhile_append_of_pos hne, List.dropWhile_append_of_pos hne]
  simp

/-- A statement with a table and a list is read back as what it was made of. -/
theorem read_statement {text table : String} {head rest : List Char} {xs : List (List Char)}
    (htext : text.toList = head ++ '"' :: (table.toList ++ '"' :: ' ' :: '(' ::
      (List.intercalate [','] xs ++ ')' :: rest)))
    (hquote : '"' ∉ head) (hopen : '(' ∉ head) (htable : Identifier.isValid table = true)
    (hne : xs ≠ []) (hxs : ∀ x ∈ xs, IsItem x) :
    tableOf text = table ∧ itemsOf text = xs.map (·.dropWhile (· == ' ')) := by
  constructor
  · have hname : '"' ∉ table.toList := Identifier.not_mem_of_isValid htable (by decide)
    rw [tableOf, htext, (takeWhile_dropWhile_bne hquote _).2, List.tail_cons,
      (takeWhile_dropWhile_bne hname _).1, String.ofList_toList]
  · have hname : '(' ∉ table.toList := Identifier.not_mem_of_isValid htable (by decide)
    have hpre : '(' ∉ head ++ '"' :: (table.toList ++ ['"', ' ']) := by
      simp [hopen, hname]
    have hsplit : text.toList = (head ++ '"' :: (table.toList ++ ['"', ' '])) ++ '(' ::
        (List.intercalate [','] xs ++ ')' :: rest) := by
      rw [htext]
      simp
    rw [itemsOf, hsplit, (takeWhile_dropWhile_bne hpre _).2, List.tail_cons,
      items?_intercalate hne hxs, Option.getD_some]

/-! ## Statements that put records into tables -/

theorem read_insertText {table : String} (htable : Identifier.isValid table = true)
    {cs : List String} (hne : cs ≠ []) (hcs : ∀ c ∈ cs, Identifier.isValid c = true) :
    tableOf (Record.insertText table cs) = table ∧
      itemsOf (Record.insertText table cs) = cs.map String.toList := by
  have hitems : ∀ x ∈ cs.map String.toList, IsItem x := by
    intro x hx
    obtain ⟨c, hc, rfl⟩ := List.mem_map.1 hx
    exact isItem_of_isAlphanum fun _ ↦ Identifier.isAlphanum_of_mem (hcs c hc)
  have htext : (Record.insertText table cs).toList
      = "INSERT INTO ".toList ++ '"' :: (table.toList ++ '"' :: ' ' :: '(' ::
          (List.intercalate [','] (cs.map String.toList) ++ ')' :: (" VALUES (".toList
            ++ List.intercalate [','] (cs.map fun c ↦ ':' :: c.toList) ++ ");".toList))) := by
    simp [Record.insertText_eq, Record.listingText_eq, Function.comp_def]
  obtain ⟨hread, hitemsOf⟩ :=
    read_statement htext (by simp) (by simp) htable (by simpa using hne) hitems
  refine ⟨hread, hitemsOf.trans ?_⟩
  rw [List.map_map]
  refine List.map_congr_left fun c hc ↦ ?_
  simpa using Identifier.dropWhile_space_append (hcs c hc) []

/-- The columns of a statement that puts a record into its table are those it was made with. -/
theorem columnsOf_insertText {table : String} (htable : Identifier.isValid table = true)
    {cs : List String} (hne : cs ≠ []) (hcs : ∀ c ∈ cs, Identifier.isValid c = true) :
    columnsOf (Record.insertText table cs) = cs := by
  rw [columnsOf, (read_insertText htable hne hcs).2, List.map_map]
  refine (List.map_congr_left fun c hc ↦ ?_).trans (List.map_id cs)
  have hspace : ' ' ∉ c.toList := Identifier.not_mem_of_isValid (hcs c hc) (by decide)
  rw [Function.comp_apply, List.takeWhile_eq_self_iff.2 (Rebind.bne_of_not_mem hspace),
    String.ofList_toList, id]

/-! ## Statements that make tables -/

/-- A type is no end of an item: the brackets in it are closed in it. -/
theorem isItem_typeText (d : Dialect) (k : Kind) : IsItem (d.typeText k).toList := by
  cases d <;> cases k <;> simp [Dialect.typeText, Dialect.columnType] <;> decide

theorem isItem_declaration (d : Dialect) {c : String × Kind}
    (hc : Identifier.isValid c.1 = true) : IsItem (Record.declaration d c).toList := by
  rw [Record.toList_declaration, ← List.singleton_append]
  have hname := isItem_of_isAlphanum fun _ ↦ Identifier.isAlphanum_of_mem hc
  exact hname.append (IsItem.append (by decide) (isItem_typeText d c.2))

theorem read_createText {table : String} (htable : Identifier.isValid table = true) (d : Dialect)
    {cs : List (String × Kind)} (hne : cs ≠ [])
    (hcs : ∀ c ∈ cs, Identifier.isValid c.1 = true) :
    tableOf (Record.createText table (cs.map (Record.declaration d))) = table ∧
      itemsOf (Record.createText table (cs.map (Record.declaration d)))
        = cs.map fun c ↦ (Record.declaration d c).toList := by
  obtain ⟨c, cs, rfl⟩ := List.exists_cons_of_ne_nil hne
  -- The space behind a comma belongs to the item behind it.
  have hitems : ∀ x ∈ (Record.declaration d c).toList ::
      (cs.map fun c ↦ (Record.declaration d c).toList).map (' ' :: ·), IsItem x := by
    intro x hx
    rcases List.mem_cons.1 hx with rfl | hx
    · exact isItem_declaration d (hcs c (.head _))
    · obtain ⟨y, hy, rfl⟩ := List.mem_map.1 hx
      obtain ⟨e, he, rfl⟩ := List.mem_map.1 hy
      exact IsItem.append (s := [' ']) (by decide) (isItem_declaration d (hcs e (.tail _ he)))
  have htext : (Record.createText table ((c :: cs).map (Record.declaration d))).toList
      = "CREATE TABLE IF NOT EXISTS ".toList ++ '"' :: (table.toList ++ '"' :: ' ' :: '(' ::
          (List.intercalate [','] ((Record.declaration d c).toList ::
              (cs.map fun c ↦ (Record.declaration d c).toList).map (' ' :: ·))
            ++ ')' :: [';'])) := by
    rw [← Text.intercalate_concat [','] ' ']
    simp [Record.createText_eq, Function.comp_def]
  obtain ⟨hread, hitemsOf⟩ :=
    read_statement htext (by simp) (by simp) htable (List.cons_ne_nil _ _) hitems
  have hdrop {e : String × Kind} (he : e ∈ c :: cs) :
      (Record.declaration d e).toList.dropWhile (· == ' ') = (Record.declaration d e).toList := by
    rw [Record.toList_declaration]
    exact Identifier.dropWhile_space_append (hcs e he) _
  refine ⟨hread, hitemsOf.trans ?_⟩
  rw [List.map_cons, List.map_cons, hdrop (.head _), List.map_map, List.map_map]
  congr 1
  refine List.map_congr_left fun e he ↦ ?_
  simpa using hdrop (.tail _ he)

/-- A type stands for one kind only. -/
theorem kindOf?_typeText {d : Dialect} {k : Kind} (hnull : k ≠ .null) (hinvalid : k ≠ .invalid) :
    kindOf? d (d.typeText k).toList = some k := by
  rw [kindOf?, String.ofList_toList]
  cases k with
  | null => exact absurd rfl hnull
  | invalid => exact absurd rfl hinvalid
  | _ => cases d <;> decide

/-- The columns of a statement that makes a table are those it was made with. -/
theorem declaredOf_createText {table : String} (htable : Identifier.isValid table = true)
    {d : Dialect} {cs : List (String × Kind)} (hne : cs ≠ [])
    (hcs : ∀ c ∈ cs, Identifier.isValid c.1 = true ∧ c.2 ≠ .null ∧ c.2 ≠ .invalid) :
    declaredOf d (Record.createText table (cs.map (Record.declaration d)))
      = cs.map fun c ↦ (c.1, some c.2) := by
  rw [declaredOf, (read_createText htable d hne fun c hc ↦ (hcs c hc).1).2, List.map_map]
  refine List.map_congr_left fun c hc ↦ ?_
  obtain ⟨hname, hnull, hinvalid⟩ := hcs c hc
  have hspace : ' ' ∉ c.1.toList := Identifier.not_mem_of_isValid hname (by decide)
  obtain ⟨htake, hdrop⟩ := takeWhile_dropWhile_bne hspace (d.typeText c.2).toList
  rw [Function.comp_apply, Record.toList_declaration, htake, hdrop, List.tail_cons,
    kindOf?_typeText hnull hinvalid, String.ofList_toList]

theorem columnsOf_eq_map_declaredOf (d : Dialect) (text : String) :
    columnsOf text = (declaredOf d text).map Prod.fst := by
  rw [columnsOf, declaredOf, List.map_map]
  rfl

end RecordGateway.Listing
