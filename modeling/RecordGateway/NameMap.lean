/-!
# Finite maps from names

A map from names to values that is listed in the order of the names, each name once.  Names are
ordered by code point, which is the order of their UTF-8 bytes, so two maps with the same content
are equal whatever order they were filled in.
-/

namespace RecordGateway

/-- Entries in strictly ascending order of their names. -/
@[ext]
structure NameMap (α : Type) where
  /-- The names with their values. -/
  entries : List (String × α)
  ascending : entries.Pairwise (fun a b ↦ a.1 < b.1)

namespace NameMap

variable {α β ε : Type}

instance [DecidableEq α] : DecidableEq (NameMap α) := fun a b ↦
  decidable_of_iff (a.entries = b.entries) NameMap.ext_iff.symm

/-- The map without entries. -/
def empty : NameMap α := ⟨[], .nil⟩

instance : EmptyCollection (NameMap α) := ⟨empty⟩

instance : Inhabited (NameMap α) := ⟨∅⟩

/-- Puts a value at its place among ascending entries, in the place of one of the same name. -/
def putEntry (k : String) (v : α) : List (String × α) → List (String × α)
  | [] => [(k, v)]
  | e :: es =>
    if k < e.1 then (k, v) :: e :: es
    else if k = e.1 then (k, v) :: es
    else e :: putEntry k v es

theorem fst_mem_putEntry {k : String} {v : α} {es : List (String × α)} {e : String × α}
    (h : e ∈ putEntry k v es) : e = (k, v) ∨ e ∈ es := by
  induction es with
  | nil => simpa [putEntry] using h
  | cons d es ih =>
    simp only [putEntry] at h
    split at h
    · simpa using h
    · split at h
      · rcases List.mem_cons.1 h with h | h
        · exact .inl h
        · exact .inr (.tail _ h)
      · rcases List.mem_cons.1 h with h | h
        · exact .inr (h ▸ .head _)
        · exact (ih h).imp_right (.tail _)

theorem pairwise_putEntry (k : String) (v : α) {es : List (String × α)}
    (h : es.Pairwise (fun a b ↦ a.1 < b.1)) :
    (putEntry k v es).Pairwise (fun a b ↦ a.1 < b.1) := by
  induction es with
  | nil => simp [putEntry]
  | cons d es ih =>
    obtain ⟨hd, hes⟩ := List.pairwise_cons.1 h
    simp only [putEntry]
    split
    · next hlt =>
      refine List.pairwise_cons.2 ⟨fun e he ↦ ?_, h⟩
      rcases List.mem_cons.1 he with rfl | he
      · exact hlt
      · exact String.lt_trans hlt (hd e he)
    · next hlt =>
      split
      · next heq => exact List.pairwise_cons.2 ⟨fun e he ↦ heq ▸ hd e he, hes⟩
      · next hne =>
        refine List.pairwise_cons.2 ⟨fun e he ↦ ?_, ih hes⟩
        rcases fst_mem_putEntry he with rfl | he
        · exact Std.lt_of_le_of_ne (Std.not_lt.1 hlt) (Ne.symm hne)
        · exact hd e he

/-- The map with `v` at `k`. -/
def insert (m : NameMap α) (k : String) (v : α) : NameMap α :=
  ⟨putEntry k v m.entries, pairwise_putEntry k v m.ascending⟩

/-- The map of a list of entries; of those with one name the last counts. -/
def ofList (es : List (String × α)) : NameMap α := es.foldl (fun m e ↦ m.insert e.1 e.2) ∅

/-- The names, ascending. -/
def keys (m : NameMap α) : List String := m.entries.map Prod.fst

/-- How many names there are. -/
def size (m : NameMap α) : Nat := m.entries.length

/-- The value of a name. -/
def get? (m : NameMap α) (k : String) : Option α := m.entries.lookup k

/-- Does the name have a value? -/
def contains (m : NameMap α) (k : String) : Bool := (m.get? k).isSome

theorem lookup_entry_cons (e : String × α) (es : List (String × α)) (name : String) :
    (e :: es).lookup name = if name = e.1 then some e.2 else es.lookup name := by
  obtain ⟨k, v⟩ := e
  by_cases h : name = k
  · simp [h]
  · simp [List.lookup_cons, h, beq_eq_false_iff_ne.2 h]

theorem lookup_putEntry (k : String) (v : α) (es : List (String × α)) (name : String) :
    (putEntry k v es).lookup name = if name = k then some v else es.lookup name := by
  induction es with
  | nil => exact lookup_entry_cons (k, v) [] name
  | cons e es ih =>
    simp only [putEntry]
    split
    · exact lookup_entry_cons (k, v) (e :: es) name
    split
    · next hk =>
      rw [lookup_entry_cons, lookup_entry_cons, ← hk]
      split <;> rfl
    · next hk =>
      rw [lookup_entry_cons, lookup_entry_cons, ih]
      split
      · next h => rw [if_neg (h ▸ Ne.symm hk)]
      · rfl

@[simp] theorem get?_empty (name : String) : (∅ : NameMap α).get? name = none := rfl

@[simp] theorem get?_insert (m : NameMap α) (k : String) (v : α) (name : String) :
    (m.insert k v).get? name = if name = k then some v else m.get? name :=
  lookup_putEntry k v m.entries name

/-! ## Going through a map -/

/-- The entries of a map in some order, in which it is gone through. -/
structure Listing (m : NameMap α) where
  entries : List (String × α)
  perm : entries.Perm m.entries

namespace Listing

variable {m : NameMap α}

instance [DecidableEq α] : DecidableEq m.Listing := fun a b ↦
  decidable_of_iff (a.entries = b.entries) (by cases a; cases b; simp)

/-- The entries in the order of their names. -/
def ascending (m : NameMap α) : m.Listing := ⟨m.entries, .refl _⟩

/-- The names in the order of the listing. -/
def names (l : m.Listing) : List String := l.entries.map Prod.fst

theorem names_perm (l : m.Listing) : l.names.Perm m.keys := l.perm.map Prod.fst

end Listing

/-- Changes every value by a rule that may fail; the first one that fails decides. -/
def traverseEntries (f : String → α → Except ε β) :
    List (String × α) → Except ε (List (String × β))
  | [] => .ok []
  | e :: es =>
    match f e.1 e.2 with
    | .error x => .error x
    | .ok v =>
      match traverseEntries f es with
      | .error x => .error x
      | .ok vs => .ok ((e.1, v) :: vs)

theorem map_fst_traverseEntries {f : String → α → Except ε β} {es : List (String × α)}
    {vs : List (String × β)} (h : traverseEntries f es = .ok vs) :
    vs.map Prod.fst = es.map Prod.fst := by
  induction es generalizing vs with
  | nil => cases h; rfl
  | cons e es ih =>
    simp only [traverseEntries] at h
    split at h
    · cases h
    · split at h
      · cases h
      · next hvs =>
        cases h
        simp [ih hvs]

theorem pairwise_iff_keys {es : List (String × α)} :
    es.Pairwise (fun a b ↦ a.1 < b.1) ↔ (es.map Prod.fst).Pairwise (· < ·) :=
  List.pairwise_map.symm

/-- The map with every value changed by a rule that may fail, gone through in the order given. -/
def traverse (f : String → α → Except ε β) (m : NameMap α) (l : m.Listing) :
    Except ε (NameMap β) :=
  match traverseEntries f l.entries with
  | .error x => .error x
  | .ok vs => .ok (ofList vs)

end NameMap

end RecordGateway
