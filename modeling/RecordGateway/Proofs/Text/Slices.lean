/-!
# Pieces of texts

Texts are cut at places that are counted in bytes, and joined from parts with separators.
-/

namespace RecordGateway.Text

/-! ## Pieces by their bytes

The pieces of a text from one byte up to another.  There is none if a boundary goes through a
character or is behind the end; what stands between two parts of a text is always there. -/

/-- The number of bytes that characters are written as. -/
def byteCount : List Char → Nat
  | [] => 0
  | c :: cs => c.utf8Size + byteCount cs

/-- The characters behind the first `n` bytes, unless one of them goes across that place. -/
def dropBytes? : Nat → List Char → Option (List Char)
  | 0, cs => some cs
  | _ + 1, [] => none
  | n + 1, c :: cs => if c.utf8Size ≤ n + 1 then dropBytes? (n + 1 - c.utf8Size) cs else none

/-- The characters in the first `n` bytes, unless one of them goes across that place. -/
def takeBytes? : Nat → List Char → Option (List Char)
  | 0, _ => some []
  | _ + 1, [] => none
  | n + 1, c :: cs =>
    if c.utf8Size ≤ n + 1 then (takeBytes? (n + 1 - c.utf8Size) cs).map (c :: ·) else none

/-- The characters from one byte up to another, where both are boundaries of characters. -/
def slice? (cs : List Char) (start stop : Nat) : Option (List Char) :=
  if start ≤ stop then (dropBytes? start cs).bind (takeBytes? (stop - start)) else none

@[simp] theorem byteCount_nil : byteCount [] = 0 := rfl

@[simp] theorem byteCount_cons (c : Char) (cs : List Char) :
    byteCount (c :: cs) = c.utf8Size + byteCount cs := rfl

@[simp] theorem byteCount_append (cs ds : List Char) :
    byteCount (cs ++ ds) = byteCount cs + byteCount ds := by
  induction cs with
  | nil => rw [List.nil_append, byteCount_nil, Nat.zero_add]
  | cons c cs ih => rw [List.cons_append, byteCount_cons, byteCount_cons, ih, Nat.add_assoc]

theorem dropBytes?_cons (c : Char) (cs : List Char) (n : Nat) :
    dropBytes? (c.utf8Size + n) (c :: cs) = dropBytes? n cs := by
  obtain ⟨k, hk⟩ := Nat.exists_eq_add_of_lt c.utf8Size_pos
  have hsum : c.utf8Size + n = k + n + 1 := by omega
  have hrest : k + n + 1 - c.utf8Size = n := by omega
  rw [hsum, dropBytes?, if_pos (by omega), hrest]

theorem takeBytes?_cons (c : Char) (cs : List Char) (n : Nat) :
    takeBytes? (c.utf8Size + n) (c :: cs) = (takeBytes? n cs).map (c :: ·) := by
  obtain ⟨k, hk⟩ := Nat.exists_eq_add_of_lt c.utf8Size_pos
  have hsum : c.utf8Size + n = k + n + 1 := by omega
  have hrest : k + n + 1 - c.utf8Size = n := by omega
  rw [hsum, takeBytes?, if_pos (by omega), hrest]

theorem dropBytes?_append (before cs : List Char) :
    dropBytes? (byteCount before) (before ++ cs) = some cs := by
  induction before with
  | nil => rw [byteCount_nil, List.nil_append, dropBytes?]
  | cons c before ih => rw [byteCount_cons, List.cons_append, dropBytes?_cons, ih]

theorem takeBytes?_append (cs after : List Char) :
    takeBytes? (byteCount cs) (cs ++ after) = some cs := by
  induction cs with
  | nil => rw [byteCount_nil, takeBytes?]
  | cons c cs ih =>
    rw [byteCount_cons, List.cons_append, takeBytes?_cons, ih]
    rfl

/-- A piece of a text can be cut out from where it begins up to where it ends. -/
theorem slice?_append (before cs after : List Char) :
    slice? (before ++ (cs ++ after)) (byteCount before) (byteCount before + byteCount cs)
      = some cs := by
  rw [slice?, if_pos (Nat.le_add_right ..), dropBytes?_append, Option.bind_some,
    Nat.add_sub_cancel_left, takeBytes?_append]

/-! ## Joined lists

A list that is joined from parts with a separator between them, and what stands in it. -/

variable {α : Type}

/-- What stands in a joined list stands in the separator or in one of the parts. -/
theorem mem_intercalate {sep : List α} {xs : List (List α)} {a : α}
    (h : a ∈ List.intercalate sep xs) : a ∈ sep ∨ ∃ x ∈ xs, a ∈ x := by
  induction xs with
  | nil => cases h
  | cons x xs ih =>
    cases xs with
    | nil => exact .inr ⟨x, .head _, by simpa using h⟩
    | cons y ys =>
      rw [List.intercalate_cons_cons, List.mem_append, List.mem_append] at h
      rcases h with (h | h) | h
      · exact .inr ⟨x, .head _, h⟩
      · exact .inl h
      · exact (ih h).imp_right fun ⟨z, hz, ha⟩ ↦ ⟨z, .tail _ hz, ha⟩

/-- A separator that ends in `a` may give that `a` to the parts behind it. -/
theorem intercalate_concat (sep : List α) (a : α) (x : List α) (xs : List (List α)) :
    List.intercalate (sep ++ [a]) (x :: xs) = List.intercalate sep (x :: xs.map (a :: ·)) := by
  induction xs generalizing x with
  | nil => rfl
  | cons y ys ih =>
    rw [List.map_cons, List.intercalate_cons_cons, List.intercalate_cons_cons, ih]
    cases ys with
    | nil => simp
    | cons z zs => simp [List.intercalate_cons_cons]

end RecordGateway.Text
